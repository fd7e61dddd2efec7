/-
Module: Rdma101.Transfer.Wait
Purpose: The blocking helpers of the engine over one native batch: the poll loop of `wait`, and
  `transfer`, which submits, waits, frees and reports.  Each native call is one section under the
  state lock; between two sections the rest of the process and the hardware move on.
Trusted boundary: human-reviewed translation of rdma101/engine.py
Main exports: World, Environment, wait, transfer
-/
import Rdma101.Abi.Values
import Rdma101.Lib.OrderedDict
import Rdma101.Lib.RepeatUntil
import Mathlib.Order.Lattice

namespace Rdma101.Transfer

open Abi (Raised Request TransferStatus)

/-- What a native engine holds.  `released` records every batch that `free_batch` released;
`closed` is set once the control plane or the native engine is closed. -/
structure Native where
  batches : OrderedDict Handle (List TransferStatus)
  released : List Handle
  closed : Bool

/-- The native engine, with the number of sections that ran and of clock readings made so far. -/
structure World where
  native : Native
  sections : Nat
  readings : Nat

inductive Abrupt where
  | raised (raised : Raised)
  | timeoutError (message : String)
  /-- Not an exception: the poll loop is still running when the fuel is used up. -/
  | unfinished
deriving DecidableEq

/-- All that the caller does not decide: how the native engine changes before each section, what
each clock reading shows, and what a submission is answered with; and the timeout of the engine. -/
structure Environment (τ : Type) where
  timeout : τ
  interfere : Nat → Native → Native
  monotonic : Nat → τ
  submission : Nat → List Request → Except Raised (Handle × List TransferStatus)

variable {τ : Type} [LinearOrder τ] [Add τ]

namespace Environment

variable (environment : Environment τ)

/-- `with self._state_lock`. -/
def withStateLock {α : Type} (action : EStateM Abrupt World α) : EStateM Abrupt World α := do
  modify fun world => { world with
    native := environment.interfere world.sections world.native
    sections := world.sections + 1 }
  action

/-- `time.monotonic()`. -/
def readClock : EStateM Abrupt World τ := do
  let world ← get
  set { world with readings := world.readings + 1 }
  return environment.monotonic world.readings

end Environment

/-- `_check_open`. -/
def checkOpen : EStateM Abrupt World Unit := do
  if (← get).native.closed then
    throw (.raised (.runtimeError "engine is closed"))

section Methods

variable (environment : Environment τ)

def submitTransfer (requests : List Request) : EStateM Abrupt World Handle :=
  environment.withStateLock do
    checkOpen
    let world ← get
    match environment.submission (world.sections - 1) requests with
    | .error raised => throw (.raised raised)
    | .ok (batch, statuses) =>
        set { world with native.batches := world.native.batches.set batch statuses }
        return batch

def getTransferStatuses (batch : Handle) : EStateM Abrupt World (List TransferStatus) :=
  environment.withStateLock do
    checkOpen
    match (← get).native.batches.get? batch with
    | none => throw (.raised .keyError)
    | some statuses => return statuses

/-- `isinstance(status, Pending)`. -/
def isPending : TransferStatus → Bool
  | .pending => true
  | .completed _ | .failed _ => false

def allTerminal (statuses : List TransferStatus) : Bool :=
  statuses.all fun status => !isPending status

/-- The native engine accepts the release of a batch exactly when all its tasks are terminal. -/
def freeBatch (batch : Handle) : EStateM Abrupt World Unit :=
  environment.withStateLock do
    checkOpen
    let world ← get
    match world.native.batches.get? batch with
    | none => throw (.raised (.engineError "free_batch" .invalid))
    | some statuses =>
        if allTerminal statuses then
          set { world with
            native.batches := world.native.batches.erase batch
            native.released := world.native.released ++ [batch] }
        else
          throw (.raised (.engineError "free_batch" .busy))

def pendingMessage (batch : Handle) : String := s!"batch {batch} is still pending (not cancelled)"

/-- One round of the loop of `wait`; the sleep that ends a round is in the next interference. -/
def poll (batch : Handle) (deadline : τ) :
    EStateM Abrupt World (Option (List TransferStatus)) := do
  let statuses ← getTransferStatuses environment batch
  if allTerminal statuses then
    return some statuses
  if deadline ≤ (← environment.readClock) then
    throw (.timeoutError (pendingMessage batch))
  return none

def wait (fuel : Nat) (batch : Handle) (timeout : Option τ) :
    EStateM Abrupt World (List TransferStatus) := do
  let deadline := (← environment.readClock) + timeout.getD environment.timeout
  repeatUntil .unfinished (poll environment batch deadline) fuel

/-- `for index, status in enumerate(statuses)`, from the task at `index`. -/
def raiseFailed (batch : Handle) : Nat → List TransferStatus → EStateM Abrupt World Unit
  | _, [] => return
  | index, .failed error :: _ =>
      throw (.raised (.engineError s!"batch {batch} task {index}" error))
  | index, _ :: rest => raiseFailed batch (index + 1) rest

def transfer (fuel : Nat) (requests : List Request) (timeout : Option τ) :
    EStateM Abrupt World (List TransferStatus) := do
  let batch ← submitTransfer environment requests
  let statuses ← wait environment fuel batch timeout
  freeBatch environment batch
  raiseFailed batch 0 statuses
  return statuses

end Methods

end Rdma101.Transfer
