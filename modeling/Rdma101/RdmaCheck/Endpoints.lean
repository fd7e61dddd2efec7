/-
Module: Rdma101.RdmaCheck.Endpoints
Purpose: The two processes of the environment check after the fork: the actions of an endpoint, the
  byte streams between them with partial and interrupted transfers, every point of failure, cleanup
  and the exit of the parent.
Trusted boundary: human-reviewed translation of scripts/rdma_check.cpp
Main exports: createResources, writeAndWait, verify, cleanup, script, World, World.waiting,
  checkSystem
-/
import Rdma101.Types
import Rdma101.Lib.LabelledSystem

namespace Rdma101.RdmaCheck

/-- The parent is the sender, and the child is the receiver. -/
inductive Role where
  | sender
  | receiver
deriving DecidableEq

def Role.other : Role → Role
  | .sender => .receiver
  | .receiver => .sender

/-! ### The actions of an endpoint

The functions that `run_endpoint` calls, each as a function of what the verbs library and the
socket answer.  Their texts and stage names decide nothing and are left out. -/

def payloadSize : Nat := 4096

def guardSize : Nat := 64

def bufferSize : Nat := payloadSize + 2 * guardSize

def guardValue : UInt8 := 0xa5

/-- `sizeof(Metadata)`. -/
def metadataSize : Nat := 40

def pattern (index : Nat) : UInt8 := UInt8.ofNat (17 + index * 37 + index / 251)

/-- `check` does not throw. -/
def check (error : Int) : Bool := error = 0

/-- The pointers in `Resources` that are not null. -/
structure Resources where
  context : Bool := false
  pd : Bool := false
  mr : Bool := false
  cq : Bool := false
  qp : Bool := false
deriving DecidableEq

/-- What the verbs library answers to `create_resources`. -/
structure DeviceAnswers where
  devices : Option (List String)
  opened : Bool
  queryPort : Int
  portActive : Bool
  gidTableLength : Nat
  queryGid : Int
  gidIsZero : Bool
  allocPd : Bool
  regMr : Bool
  createCq : Bool
  createQp : Bool
deriving DecidableEq

/-- The resources that exist afterwards, and whether the function returns normally. -/
def createResources (deviceName : String) (gidIndex : Nat) (answers : DeviceAnswers) :
    Resources × Bool :=
  match answers.devices with
  | none => ({}, false)
  | some devices =>
      if deviceName ∉ devices then ({}, false)
      else if !answers.opened then ({}, false)
      else
        let r : Resources := { context := true }
        if !check answers.queryPort then (r, false)
        else if !answers.portActive then (r, false)
        else if answers.gidTableLength ≤ gidIndex then (r, false)
        else if !check answers.queryGid then (r, false)
        else if answers.gidIsZero then (r, false)
        else if !answers.allocPd then (r, false)
        else
          let r := { r with pd := true }
          if !answers.regMr then (r, false)
          else
            let r := { r with mr := true }
            if !answers.createCq then (r, false)
            else
              let r := { r with cq := true }
              if !answers.createQp then (r, false) else ({ r with qp := true }, true)

/-- The results of the three calls of `ibv_modify_qp`. -/
def connectQp (toInit toRtr toRts : Int) : Bool := check toInit && check toRtr && check toRts

/-- One round of the loop in `write_and_wait`: what `ibv_poll_cq` returns, the completion, and
whether the deadline has passed. -/
structure Poll where
  count : Int
  success : Bool
  wrId : Nat
  isRdmaWrite : Bool
  late : Bool
deriving DecidableEq

/-- How a round ends the loop: whether it returns normally.  Without a completion, and before the
deadline, the loop goes on. -/
def Poll.ends (poll : Poll) : Option Bool :=
  if poll.count < 0 then some false
  else if poll.count ≠ 0 then some (poll.success && poll.wrId = 1 && poll.isRdmaWrite)
  else if poll.late then some false
  else none

/-- Whether the loop returns normally.  There is no answer while it goes on, and none for a list
with rounds after the one that ends it: those are never polled. -/
def pollLoop : List Poll → Option Bool
  | [] => none
  | poll :: rest =>
      match poll.ends with
      | none => pollLoop rest
      | some ok => if rest = [] then some ok else none

/-- A post that fails is not followed by a poll. -/
def writeAndWait (posted : Int) (polls : List Poll) : Option Bool :=
  if check posted then pollLoop polls else if polls = [] then some false else none

def expectedByte (index : Nat) : UInt8 :=
  if guardSize ≤ index ∧ index < guardSize + payloadSize then pattern (index - guardSize)
  else guardValue

/-- `verify` returns normally. -/
def verify (buffer : Nat → UInt8) : Bool :=
  (List.range bufferSize).all fun index => buffer index = expectedByte index

/-- The results of the release functions. -/
structure ReleaseErrors where
  qp : Int := 0
  mr : Int := 0
  cq : Int := 0
  pd : Int := 0
  context : Int := 0
deriving DecidableEq

/-- The result of `cleanup` is not zero. -/
def cleanup (r : Resources) (errors : ReleaseErrors) : Bool :=
  (r.qp && errors.qp ≠ 0) || (r.mr && errors.mr ≠ 0) || (r.cq && errors.cq ≠ 0) ||
    (r.pd && errors.pd ≠ 0) || (r.context && errors.context ≠ 0)

/-! ### The body of `run_endpoint`

The `try` block of either role, as the list of its actions.  Sends and receives are actions of
their own, because they take several steps. -/

/-- `receive` is `receive_bytes`, followed by the comparison of `receive_token` if a token is
expected. -/
inductive Action where
  | socketTimeouts
  | createResources
  | send (data : Bytes)
  | receive (size : Nat) (expected : Option UInt8)
  | connectQp
  | writeAndWait
  | verify
deriving DecidableEq

/-- The tokens `R`, `D` and `V`. -/
def tokenR : UInt8 := 82
def tokenD : UInt8 := 68
def tokenV : UInt8 := 86

/-- The `try` block, in order. -/
def script (role : Role) (metadata : Bytes) : List Action :=
  [.socketTimeouts, .createResources, .send metadata, .receive metadataSize none, .connectQp,
    .send [tokenR], .receive 1 (some tokenR)] ++
  match role with
  | .sender => [.writeAndWait, .send [tokenD], .receive 1 (some tokenV)]
  | .receiver => [.receive 1 (some tokenD), .verify, .send [tokenV]]

/-! ### Two processes

A step is one system call or one action of one process.  A stream is everything that was ever
sent; what is unread is the part behind what the other endpoint has taken. -/

inductive Phase where
  | trying
  | cleanup
  | close
  /-- The parent, in `waitpid`. -/
  | wait
  | exited (code : Nat)
  | killed
deriving DecidableEq

/-- `pending` holds the bytes of the current action that have been transferred, `received` what the
finished calls of `receive_bytes` obtained. -/
structure Endpoint where
  phase : Phase := .trying
  done : List Action := []
  todo : List Action
  pending : Bytes := []
  received : List Bytes := []
  resources : Resources := {}
  failed : Bool := false
deriving DecidableEq

/-- What a process does next, with the answers of its surroundings. -/
inductive Move where
  | setsockopt (ok : Bool)
  | createResources (answers : DeviceAnswers)
  | connectQp (toInit toRtr toRts : Int)
  | writeAndWait (posted : Int) (polls : List Poll)
  | verify (buffer : Nat → UInt8)
  /-- `send` or `recv` returns a positive count. -/
  | transferred (count : Nat)
  /-- A call is interrupted, with `EINTR`. -/
  | interrupted
  /-- `send` or `recv` fails otherwise, also by its timeout. -/
  | ioFails
  | endOfStream
  | cleanup (errors : ReleaseErrors)
  | close
  | waited
  | waitFails
  | killed

/-- `sent` holds all bytes that an endpoint has put into its stream so far. -/
structure World where
  endpoint : Role → Endpoint
  sent : Role → Bytes := fun _ => []
  log : List (Role × Move) := []

/-- The arguments, the metadata of the endpoints, and how many bytes a direction buffers. -/
structure Setting where
  deviceName : String
  gidIndex : Nat
  metadata : Role → Bytes
  capacity : Nat

namespace Endpoint

/-- The endpoint has not closed its end of the socket. -/
def isOpen (e : Endpoint) : Bool := e.phase = .trying || e.phase = .cleanup || e.phase = .close

/-- The bytes of a send that is under way. -/
def sending (e : Endpoint) : Bytes :=
  match e.todo with
  | .send _ :: _ => e.pending
  | _ => []

/-- The bytes of a receive that is under way. -/
def receiving (e : Endpoint) : Bytes :=
  match e.todo with
  | .receive _ _ :: _ => e.pending
  | _ => []

/-- All bytes taken out of the peer's stream. -/
def consumed (e : Endpoint) : Bytes := e.received.flatten ++ e.receiving

/-- The current action is complete. -/
def complete (e : Endpoint) : Endpoint :=
  match e.todo with
  | [] => e
  | action :: rest =>
      { e with
        done := e.done ++ [action]
        todo := rest
        pending := []
        phase := if rest = [] then .cleanup else e.phase }

/-- An exception leaves the `try` block. -/
def throw (e : Endpoint) : Endpoint := { e with failed := true, phase := .cleanup }

def finish (e : Endpoint) (ok : Bool) : Endpoint := if ok then e.complete else e.throw

end Endpoint

namespace World

/-- The bytes that wait for an endpoint. -/
def unread (world : World) (role : Role) : Bytes :=
  (world.sent role.other).drop (world.endpoint role).consumed.length

/-- One step of `send_bytes`: the endpoint and what it adds to its stream. -/
def advanceSend (setting : Setting) (world : World) (role : Role) (data : Bytes) :
    Move → Option (Endpoint × Bytes)
  | .transferred count =>
      let e := world.endpoint role
      let rest := data.drop e.pending.length
      if 0 < count ∧ count ≤ rest.length ∧
          (world.unread role.other).length + count ≤ setting.capacity ∧
          (world.endpoint role.other).isOpen = true then
        some (if count = rest.length then e.complete
          else { e with pending := e.pending ++ rest.take count }, rest.take count)
      else none
  | .interrupted => some (world.endpoint role, [])
  | .ioFails => some ((world.endpoint role).throw, [])
  | _ => none

/-- The comparison of `receive_token`; there is none for the metadata. -/
def accepts (expected : Option UInt8) (message : Bytes) : Bool :=
  match expected with
  | none => true
  | some token => message = [token]

/-- One step of `receive_bytes`, and of the comparison after the last one. -/
def advanceReceive (world : World) (role : Role) (size : Nat) (expected : Option UInt8) :
    Move → Option (Endpoint × Bytes)
  | .transferred count =>
      let e := world.endpoint role
      if 0 < count ∧ e.pending.length + count ≤ size ∧ count ≤ (world.unread role).length then
        let message := e.pending ++ (world.unread role).take count
        if e.pending.length + count = size then
          let e := { e.complete with received := e.received ++ [message] }
          some (if accepts expected message then e else e.throw, [])
        else some ({ e with pending := message }, [])
      else none
  | .interrupted => some (world.endpoint role, [])
  | .ioFails => some ((world.endpoint role).throw, [])
  | .endOfStream =>
      if world.unread role = [] ∧ (world.endpoint role.other).isOpen = false then
        some ((world.endpoint role).throw, [])
      else none
  | _ => none

/-- One step inside the `try` block. -/
def advanceAction (setting : Setting) (world : World) (role : Role) :
    Action → Move → Option (Endpoint × Bytes)
  | .send data, move => world.advanceSend setting role data move
  | .receive size expected, move => world.advanceReceive role size expected move
  | .socketTimeouts, .setsockopt ok => some ((world.endpoint role).finish ok, [])
  | .createResources, .createResources answers =>
      let created := RdmaCheck.createResources setting.deviceName setting.gidIndex answers
      some (({ world.endpoint role with resources := created.1 }).finish created.2, [])
  | .connectQp, .connectQp toInit toRtr toRts =>
      some ((world.endpoint role).finish (RdmaCheck.connectQp toInit toRtr toRts), [])
  | .writeAndWait, .writeAndWait posted polls =>
      (RdmaCheck.writeAndWait posted polls).map fun ok => ((world.endpoint role).finish ok, [])
  | .verify, .verify buffer =>
      some ((world.endpoint role).finish (RdmaCheck.verify buffer), [])
  | _, _ => none

/-- The parent waits for its child, which returns its result from `main`. -/
def afterClose (failed : Bool) : Role → Phase
  | .sender => .wait
  | .receiver => .exited failed.toNat

/-- The exit code of the parent, once its child has ended. -/
def exitCode (failed : Bool) : Phase → Option Nat
  | .exited code => some (if code ≠ 0 then 1 else failed.toNat)
  | .killed => some 1
  | _ => none

/-- One step of a process, that is not killed. -/
def advance (setting : Setting) (world : World) (role : Role) (move : Move) :
    Option (Endpoint × Bytes) :=
  let e := world.endpoint role
  match e.phase, move with
  | .trying, move =>
      match e.todo with
      | [] => none
      | action :: _ => world.advanceAction setting role action move
  | .cleanup, .cleanup errors =>
      some ({ e with
        failed := e.failed || RdmaCheck.cleanup e.resources errors
        phase := .close }, [])
  | .close, .close =>
      some ({ e with phase := afterClose e.failed role }, [])
  | .wait, .interrupted => some (e, [])
  | .wait, .waitFails => some ({ e with phase := .exited 1 }, [])
  | .wait, .waited =>
      (exitCode e.failed (world.endpoint role.other).phase).map fun code =>
        ({ e with phase := .exited code }, [])
  | _, _ => none

/-- The process has not ended. -/
def isLive (world : World) (role : Role) : Bool :=
  match (world.endpoint role).phase with
  | .killed | .exited _ => false
  | _ => true

/-- Any process may also be killed at any time. -/
def step (setting : Setting) (world : World) (role : Role) (move : Move) : Option World :=
  let advanced :=
    match move with
    | .killed =>
        if world.isLive role then some ({ world.endpoint role with phase := .killed }, [])
        else none
    | move => world.advance setting role move
  advanced.map fun (e, chunk) =>
    { endpoint := fun other => if other = role then e else world.endpoint other
      sent := fun other => if other = role then world.sent role ++ chunk else world.sent other
      log := world.log ++ [(role, move)] }

/-- The endpoint cannot go on before its peer does: it receives from an empty stream or sends into
a full one that the peer has not closed, or it waits for its child. -/
def waiting (setting : Setting) (world : World) (role : Role) : Bool :=
  let e := world.endpoint role
  match e.phase, e.todo with
  | .trying, .send _ :: _ =>
      (world.endpoint role.other).isOpen && setting.capacity ≤ (world.unread role.other).length
  | .trying, .receive _ _ :: _ =>
      (world.endpoint role.other).isOpen && world.unread role = []
  | .wait, _ => world.isLive role.other
  | _, _ => false

end World

def start (setting : Setting) : World where
  endpoint role := { todo := script role (setting.metadata role) }

/-- Each label is a step of one of the processes. -/
def checkSystem (setting : Setting) : LabelledSystem World (Role × Move) where
  Initial world := world = start setting
  step world label := world.step setting label.1 label.2

/-- What an endpoint passes to `send_bytes`, call by call. -/
def messages (setting : Setting) : Role → List Bytes
  | .sender => [setting.metadata .sender, [tokenR], [tokenD]]
  | .receiver => [setting.metadata .receiver, [tokenR], [tokenV]]

end Rdma101.RdmaCheck
