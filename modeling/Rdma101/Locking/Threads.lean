/-
Module: Rdma101.Locking.Threads
Purpose: The threads of any number of engines: the locks that the methods of an engine take, the
  RPCs that they wait for, the pool of four workers that runs the handlers, and the end of a server.
  What the bodies of the critical sections compute is left open.
Trusted boundary: human-reviewed translation of the locking of rdma101/engine.py and
  rdma101/control.py
Main exports: Operation, Section, Task, Status, Worker, World, Move, lockSystem
-/
import Rdma101.Lib.LabelledSystem
import Mathlib.Logic.Function.Basic

namespace Rdma101.Locking

/-! ### What the methods do

A method is a list of tasks: take the state lock for a section, then perhaps calls, then another
section.  The resource lock is held over all of it.  What a section computes is left open,
except for the nodes that it decides to call. -/

/-- The blocks under `with self._state_lock`. -/
inductive Section where
  | connectOffer
  | connectUpdate
  | connectFinish
  | disconnectDestroy
  | registerNative
  | publishAppend
  | submitTransfer
  | getTransferStatuses
  | freeBatch
  | controlClose
  | nativeClose
deriving DecidableEq

/-- What is left of a method. -/
inductive Task (Node : Type) where
  /-- Code without a lock that may raise. -/
  | check
  | locked (body : Section)
  /-- A call of a stub; no node has the address if there is no target. -/
  | call (target : Option Node)
  /-- `self._server.stop(0)`. -/
  | stop
  /-- `.wait()`, and `self._executor.shutdown(wait=True)`. -/
  | shutdown
deriving DecidableEq

/-- The methods of `Engine`; `target` is the node that the endpoint reaches. -/
inductive Operation (Node : Type) where
  | connect (target : Option Node)
  | disconnect
  | registerLocalMemory
  | submitTransfer
  | getTransferStatuses
  | freeBatch
  | close
deriving DecidableEq

/-- Whether the method runs under `with self._resource_lock`. -/
def Operation.exclusive {Node : Type} : Operation Node → Bool
  | .submitTransfer | .getTransferStatuses | .freeBatch => false
  | .connect _ | .disconnect | .registerLocalMemory | .close => true

def Operation.tasks {Node : Type} : Operation Node → List (Task Node)
  | .connect target =>
      [.check, .locked .connectOffer, .call target, .locked .connectUpdate, .call target,
        .locked .connectFinish]
  | .disconnect => [.locked .disconnectDestroy]
  | .registerLocalMemory => [.locked .registerNative, .locked .publishAppend]
  | .submitTransfer => [.locked .submitTransfer]
  | .getTransferStatuses => [.locked .getTransferStatuses]
  | .freeBatch => [.locked .freeBatch]
  | .close => [.locked .controlClose]

/-- How a critical section ends: it raises or returns from the method, or the method goes on, with
the nodes of the peers that the section has selected. -/
inductive Ending (Node : Type) where
  | leaves
  | goesOn (peers : List (Option Node))
deriving DecidableEq

/-- What is left of the method after a critical section; `closed` is the flag of the control
plane before it. -/
def Section.next {Node : Type} (closed : Bool) (ending : Ending Node) (rest : List (Task Node)) :
    Section → List (Task Node)
  | .controlClose =>
      if closed then [.locked .nativeClose] else [.stop, .shutdown, .locked .nativeClose]
  | .disconnectDestroy =>
      match ending with
      | .leaves => []
      | .goesOn peers => (peers.take 1).map .call
  | .publishAppend =>
      match ending with
      | .leaves => []
      | .goesOn peers => peers.map .call
  | .connectOffer | .connectUpdate | .connectFinish | .registerNative | .submitTransfer
  | .getTransferStatuses | .freeBatch | .nativeClose =>
      match ending with
      | .leaves => []
      | .goesOn _ => rest

/-! ### Threads, workers and locks

The executor of a server has four workers, and its queue takes any number of calls.  `close`
stops the server first and then waits until the executor has drained. -/

inductive Status (Node : Type) where
  /-- At `with self._resource_lock`. -/
  | resourceWait (tasks : List (Task Node))
  | running (tasks : List (Task Node))
  /-- Inside `with self._state_lock`. -/
  | inState (body : Section) (rest : List (Task Node))
  /-- In a call of a stub. -/
  | waiting (call : Nat) (rest : List (Task Node))
deriving DecidableEq

/-- A thread in a method of the engine of `node`. -/
structure Activity (Node : Type) where
  node : Node
  exclusive : Bool
  status : Status Node
deriving DecidableEq

/-- A worker of the pool, with the call whose handler it runs. -/
inductive Worker where
  | idle
  /-- In the code before the lock, which may raise. -/
  | starting (call : Nat)
  /-- At `with self._state_lock`. -/
  | stateWait (call : Nat)
  | inState (call : Nat)
deriving DecidableEq

/-- A thread, a worker, or the queue of an executor. -/
inductive Party (Node Thread : Type) where
  | thread (thread : Thread)
  | worker (node : Node) (index : Fin 4)
  | executor (node : Node)
deriving DecidableEq

/-- A call, and whether it succeeded once it is answered. -/
structure Rpc (Node : Type) where
  target : Node
  answer : Option Bool := none
deriving DecidableEq

structure World (Node Thread : Type) where
  activity : Thread → Option (Activity Node) := fun _ => none
  worker : Node → Fin 4 → Worker := fun _ _ => .idle
  resourceLock : Node → Option Thread := fun _ => none
  stateLock : Node → Option (Party Node Thread) := fun _ => none
  /-- The calls that wait for a worker. -/
  queue : Node → List Nat := fun _ => []
  calls : List (Rpc Node) := []
  closed : Node → Bool := fun _ => false
  stopped : Node → Bool := fun _ => false

/-- What a thread does next in its method. -/
inductive ThreadStep (Node : Type) where
  | acquireResource
  | check (ok : Bool)
  | acquireState
  | leaveState (ending : Ending Node)
  | call
  | resume
  | stop
  | shutdown
  /-- The method ends, and releases the resource lock if it has taken it. -/
  | leave

inductive WorkerStep where
  | take
  | check (ok : Bool)
  | acquireState
  | leaveState (ok : Bool)

inductive Move (Node Thread : Type) where
  | start (thread : Thread) (node : Node) (operation : Operation Node)
  | thread (thread : Thread) (step : ThreadStep Node)
  | worker (node : Node) (index : Fin 4) (step : WorkerStep)

namespace World

variable {Node Thread : Type} [DecidableEq Node] [DecidableEq Thread]

/-- The thread goes on in its method. -/
def setStatus (world : World Node Thread) (thread : Thread) (activity : Activity Node)
    (status : Status Node) : World Node Thread :=
  { world with
    activity := Function.update world.activity thread
      (some { activity with status := status }) }

def setWorker (world : World Node Thread) (node : Node) (index : Fin 4) (worker : Worker) :
    World Node Thread :=
  { world with
    worker := Function.update world.worker node
      (Function.update (world.worker node) index worker) }

/-- The first answer of a call stands. -/
def answerCall (world : World Node Thread) (call : Nat) (ok : Bool) : World Node Thread :=
  { world with calls := world.calls.modify call fun rpc =>
      { rpc with answer := some (rpc.answer.getD ok) } }

/-- Start a method. -/
def stepStart (world : World Node Thread) (thread : Thread) (node : Node)
    (operation : Operation Node) : Option (World Node Thread) :=
  match world.activity thread with
  | some _ => none
  | none =>
      some (world.setStatus thread
        { node := node, exclusive := operation.exclusive, status := .running [] }
        (if operation.exclusive then .resourceWait operation.tasks
          else .running operation.tasks))

/-- Send a request; it fails at once without a server. -/
def stepCall (world : World Node Thread) (thread : Thread) (activity : Activity Node)
    (rest : List (Task Node)) : Option Node → World Node Thread
  | none => world.setStatus thread activity (.running [])
  | some target =>
      if world.stopped target then world.setStatus thread activity (.running [])
      else
        { world.setStatus thread activity (.waiting world.calls.length rest) with
          calls := world.calls ++ [{ target := target }]
          queue := Function.update world.queue target
            (world.queue target ++ [world.calls.length]) }

/-- Stop a server: calls that are not answered are aborted.  Their handlers stay with the
executor. -/
def stopServer (world : World Node Thread) (node : Node) : World Node Thread :=
  { world with
    stopped := Function.update world.stopped node true
    calls := world.calls.map fun rpc =>
      if rpc.target = node then { rpc with answer := some (rpc.answer.getD false) } else rpc }

/-- The executor has nothing to do. -/
def isDrained (world : World Node Thread) (node : Node) : Bool :=
  world.queue node = [] ∧ ∀ index, world.worker node index = .idle

/-- One step of a thread in its method. -/
def stepThread (world : World Node Thread) (thread : Thread) (activity : Activity Node) :
    Status Node → ThreadStep Node → Option (World Node Thread)
  | .resourceWait tasks, .acquireResource =>
      if world.resourceLock activity.node = none then
        some { world.setStatus thread activity (.running tasks) with
          resourceLock := Function.update world.resourceLock activity.node (some thread) }
      else none
  | .running (.check :: rest), .check ok =>
      some (world.setStatus thread activity (.running (if ok then rest else [])))
  | .running (.locked body :: rest), .acquireState =>
      if world.stateLock activity.node = none then
        some { world.setStatus thread activity (.inState body rest) with
          stateLock := Function.update world.stateLock activity.node (some (.thread thread)) }
      else none
  | .inState body rest, .leaveState ending =>
      some { world.setStatus thread activity
          (.running (body.next (world.closed activity.node) ending rest)) with
        stateLock := Function.update world.stateLock activity.node none
        closed := if body = .controlClose then Function.update world.closed activity.node true
          else world.closed }
  | .running (.call target :: rest), .call => some (world.stepCall thread activity rest target)
  | .waiting call rest, .resume =>
      ((world.calls[call]?).bind Rpc.answer).map fun ok =>
        world.setStatus thread activity (.running (if ok then rest else []))
  | .running (.stop :: rest), .stop =>
      some ((world.stopServer activity.node).setStatus thread activity (.running rest))
  | .running (.shutdown :: rest), .shutdown =>
      if world.isDrained activity.node then
        some (world.setStatus thread activity (.running rest))
      else none
  | .running [], .leave =>
      some { world with
        activity := Function.update world.activity thread none
        resourceLock := if activity.exclusive then
            Function.update world.resourceLock activity.node none
          else world.resourceLock }
  | _, _ => none

/-- One step of a worker. -/
def stepWorker (world : World Node Thread) (node : Node) (index : Fin 4) :
    Worker → WorkerStep → Option (World Node Thread)
  | .idle, .take =>
      match world.queue node with
      | [] => none
      | call :: rest =>
          some { world.setWorker node index (.starting call) with
            queue := Function.update world.queue node rest }
  | .starting call, .check ok =>
      some (if ok then world.setWorker node index (.stateWait call)
        else (world.setWorker node index .idle).answerCall call false)
  | .stateWait call, .acquireState =>
      if world.stateLock node = none then
        some { world.setWorker node index (.inState call) with
          stateLock := Function.update world.stateLock node (some (.worker node index)) }
      else none
  | .inState call, .leaveState ok =>
      some { (world.setWorker node index .idle).answerCall call ok with
        stateLock := Function.update world.stateLock node none }
  | _, _ => none

def step (world : World Node Thread) : Move Node Thread → Option (World Node Thread)
  | .start thread node operation => world.stepStart thread node operation
  | .thread thread step =>
      (world.activity thread).bind fun activity =>
        world.stepThread thread activity activity.status step
  | .worker node index step => world.stepWorker node index (world.worker node index) step

end World

/-- Every thread may start every method of every engine at any time; no call has a deadline. -/
def lockSystem (Node Thread : Type) [DecidableEq Node] [DecidableEq Thread] :
    LabelledSystem (World Node Thread) (Move Node Thread) where
  Initial world := world = {}
  step := World.step

end Rdma101.Locking
