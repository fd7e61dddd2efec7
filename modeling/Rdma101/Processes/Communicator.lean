/-
Module: Rdma101.Processes.Communicator
Purpose: The queues between the test processes, as programs that send and receive, and the system
  of all ranks running the same sequence of collective rounds over them.
Trusted boundary: human-reviewed translation of tests/processes.py
Main exports: Comm, Communicator.sendrecv, Communicator.allgather, Round, World, system
-/
import Rdma101.Lib.LabelledSystem
import Mathlib.Data.List.FinRange

namespace Rdma101.Processes

/-- A program of one rank: it puts values in queues and takes values out of queues. -/
inductive Comm (n : Nat) (V α : Type) where
  | done (value : α)
  | send (value : V) (dest : Fin n) (next : Comm n V α)
  | recv (source : Fin n) (next : V → Comm n V α)

namespace Comm

variable {n : Nat} {V α β : Type}

def bind : Comm n V α → (α → Comm n V β) → Comm n V β
  | .done value, next => next value
  | .send value dest rest, next => .send value dest (rest.bind next)
  | .recv source rest, next => .recv source fun value => (rest value).bind next

instance : Monad (Comm n V) where
  pure := .done
  bind := bind

end Comm

namespace Communicator

variable {n : Nat} {V : Type}

def send (value : V) (dest : Fin n) : Comm n V Unit := .send value dest (.done ())

def recv (source : Fin n) : Comm n V V := .recv source .done

def sendrecv (value : V) (dest source : Fin n) : Comm n V V := do
  send value dest
  recv source

/-- The first loop of `allgather`. -/
def sendOthers (rank : Fin n) (value : V) : List (Fin n) → Comm n V Unit
  | [] => return
  | other :: rest => do
      if other ≠ rank then
        send value other
      sendOthers rank value rest

/-- The list comprehension of `allgather`. -/
def gather (rank : Fin n) (value : V) : List (Fin n) → Comm n V (List V)
  | [] => return []
  | other :: rest => do
      let received ← if other = rank then pure value else recv other
      return received :: (← gather rank value rest)

def allgather (rank : Fin n) (value : V) : Comm n V (List V) := do
  sendOthers rank value (List.finRange n)
  gather rank value (List.finRange n)

end Communicator

/-- A collective round.  In a round of `sendrecv`, each rank either calls it, with this destination
and this source, or skips the round. -/
inductive Round (n : Nat) where
  | allgather
  | sendrecv (call : Fin n → Option (Fin n × Fin n))

/-- What a round returns on a rank. -/
inductive Outcome (V : Type) where
  | gathered (values : List V)
  | received (value : V)
  | skipped
deriving DecidableEq

/-- The partners match: a rank is another rank's destination exactly when that one is its source,
and nobody is its own partner. -/
def Round.Matching {n : Nat} : Round n → Prop
  | .allgather => True
  | .sendrecv call =>
      (∀ sender receiver, (∃ source, call sender = some (receiver, source)) ↔
        ∃ dest, call receiver = some (dest, sender)) ∧
      ∀ rank source, call rank ≠ some (rank, source)

/-- The code of a round on a rank. -/
def Round.code {n : Nat} {V : Type} (rank : Fin n) (value : V) :
    Round n → Comm n V (Outcome V)
  | .allgather => do return .gathered (← Communicator.allgather rank value)
  | .sendrecv call =>
      match call rank with
      | none => return .skipped
      | some (dest, source) => do
          return .received (← Communicator.sendrecv value dest source)

/-- A rank: the rounds it has finished, with the value it passed and what it got, and the one that
it is in, with its value and the rest of its code. -/
structure Process (n : Nat) (V : Type) where
  log : List (V × Outcome V) := []
  running : Option (V × Comm n V (Outcome V)) := none

/-- The ranks and the queues, from the first rank to the second one. -/
structure World (n : Nat) (V : Type) where
  processes : Fin n → Process n V := fun _ => {}
  messages : Fin n → Fin n → List V := fun _ _ => []

/-- The values that a rank has passed to its rounds so far. -/
def Process.passed {n : Nat} {V : Type} (process : Process n V) : List V :=
  process.log.map Prod.fst ++ process.running.toList.map Prod.fst

/-- A rank enters its next round with any value, or takes one step inside a round. -/
inductive Label (n : Nat) (V : Type) where
  | enter (rank : Fin n) (value : V)
  | advance (rank : Fin n)

section System

variable {n : Nat} {V : Type}

def World.setProcess (world : World n V) (rank : Fin n) (process : Process n V) : World n V :=
  { world with processes := Function.update world.processes rank process }

def World.setMessages (world : World n V) (sender receiver : Fin n) (queue : List V) :
    World n V :=
  { world with messages := fun sender' receiver' =>
      if sender' = sender ∧ receiver' = receiver then queue
      else world.messages sender' receiver' }

/-- A rank has no queue to itself.  `get` waits while the queue is empty. -/
def World.advance (world : World n V) (rank : Fin n) (value : V) :
    Comm n V (Outcome V) → Option (World n V)
  | .done outcome =>
      some (world.setProcess rank
        { log := (world.processes rank).log ++ [(value, outcome)], running := none })
  | .send message dest next =>
      if dest = rank then none
      else some ((world.setProcess rank { world.processes rank with
        running := some (value, next) }).setMessages rank dest
          (world.messages rank dest ++ [message]))
  | .recv source next =>
      if source = rank then none
      else match world.messages source rank with
        | [] => none
        | message :: queue =>
            some ((world.setProcess rank { world.processes rank with
              running := some (value, next message) }).setMessages source rank queue)

def step (rounds : List (Round n)) (world : World n V) : Label n V → Option (World n V)
  | .enter rank value =>
      match (world.processes rank).running, rounds[(world.processes rank).log.length]? with
      | none, some round =>
          some (world.setProcess rank { world.processes rank with
            running := some (value, round.code rank value) })
      | _, _ => none
  | .advance rank =>
      match (world.processes rank).running with
      | none => none
      | some (value, code) => world.advance rank value code

/-- All ranks run the same rounds. -/
def system (n : Nat) (V : Type) (rounds : List (Round n)) :
    LabelledSystem (World n V) (Label n V) where
  Initial world := world = {}
  step := step rounds

end System

end Rdma101.Processes
