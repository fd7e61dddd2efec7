/-
Module: Rdma101.Abi.Errors
Purpose: The errors by which the adapter reports that its own tables are wrong, and the parts of
  the adapter that cannot raise one: the codecs, the conversions and the check of a result code.
Trusted boundary: none
Main exports: internalMessages, Raised.Internal, Proper, check_proper, decodeFrom_proper,
  encodeRequests_proper
-/
import Rdma101.Abi.NativeEngine

namespace Rdma101.Abi

/-- What the adapter reports when its tables and the C engine disagree. -/
def internalMessages : List String :=
  ["registration IDs must be nonzero and distinct",
    "registration returned missing memory metadata",
    "invalid remote memory ID",
    "live peer IDs must be nonzero and distinct",
    "create_peer returned missing connection metadata",
    "live batch IDs must be nonzero and distinct"]

/-- An error of the adapter's own bookkeeping. -/
def Raised.Internal : Raised → Prop
  | .keyError => True
  | .runtimeError message => message ∈ internalMessages
  | .valueError _ | .overflowError | .engineError _ _ => False

/-- A message that starts like none of them is none of them. -/
theorem not_internal_of_start {start rest : String}
    (differs : ∀ message ∈ internalMessages, ¬start.toList <+: message.toList) :
    ¬(Raised.runtimeError (start ++ rest)).Internal := by
  intro internal
  exact differs _ internal (by simp)

/-- A computation that raises no error of the bookkeeping. -/
def Proper {α : Type} (computation : Except Raised α) : Prop :=
  ∀ error, computation = .error error → ¬error.Internal

namespace Proper

variable {α β : Type}

protected theorem pure (value : α) : Proper (pure value) := by
  intro error raised
  cases raised

protected theorem throw {error : Raised} (notInternal : ¬error.Internal) :
    Proper (throw error : Except Raised α) := by
  intro other raised
  exact Except.error.inj raised ▸ notInternal

protected theorem bind {computation : Except Raised α} {next : α → Except Raised β}
    (first : Proper computation) (second : ∀ value, Proper (next value)) :
    Proper (computation >>= next) := by
  intro error raised
  cases result : computation with
  | error earlier =>
      rw [result] at raised
      exact Except.error.inj raised ▸ first earlier result
  | ok value =>
      rw [result] at raised
      exact second value error raised

protected theorem map {computation : Except Raised α} (proper : Proper computation)
    (change : α → β) : Proper (computation.map change) := by
  intro error raised
  cases result : computation with
  | error earlier =>
      rw [result] at raised
      exact Except.error.inj raised ▸ proper earlier result
  | ok value =>
      rw [result] at raised
      cases raised

end Proper

theorem errorCode_proper (value : Int32) : Proper (errorCode value) := by
  unfold errorCode
  split
  · exact .pure _
  · exact .throw (not_internal_of_start (by decide))

/-- A result code is turned into the error of its function. -/
theorem check_proper (name : String) (code : Int32) : Proper (check name code) := by
  unfold check
  split
  · exact (errorCode_proper code).bind fun _ => .throw id
  · exact .pure ()

/-- The decoder rejects an entry by a message about its index. -/
theorem decodeStatus_proper (index : Nat) (status : R101TransferStatus)
    (operation : OperationType) : Proper (decodeStatus index status operation) := by
  have task : ∀ message ∈ internalMessages, ¬(toString "task ").toList <+: message.toList := by
    decide
  -- Every message of the loop starts by naming the task.
  have named : ∀ text : String, ¬(Raised.runtimeError (toString "task " ++ text)).Internal :=
    fun text => not_internal_of_start task
  unfold decodeStatus
  simp only [String.append_assoc]
  split_ifs
  · exact (errorCode_proper status.error).map TransferStatus.failed
  · exact .throw (named _)
  · exact .pure _
  · exact .throw (named _)
  · exact .pure _
  · exact .throw (named _)
  · exact .pure _
  · exact .throw (named _)
  · exact .pure _
  · exact .throw (named _)

theorem decodeFrom_proper (index : Nat) (statuses : List R101TransferStatus)
    (operations : List OperationType) : Proper (decodeFrom index statuses operations) := by
  induction statuses generalizing index operations with
  | nil => exact .pure _
  | cons status statuses inductionHypothesis =>
      cases operations with
      | nil => exact .pure _
      | cons operation operations =>
          exact (decodeStatus_proper index status operation).bind fun _ =>
            (inductionHypothesis (index + 1) operations).bind fun _ => .pure _

theorem toUInt64_proper (value : Int) : Proper (toUInt64 value) := by
  unfold toUInt64
  split
  · exact .pure _
  · exact .throw id

theorem toUInt32_proper (value : Int) : Proper (toUInt32 value) := by
  unfold toUInt32
  split
  · exact .pure _
  · exact .throw id

/-- An integer that does not fit a handle overflows. -/
theorem toHandle_proper (value : Int) : Proper (NativeEngine.toHandle value) :=
  (toUInt64_proper value).bind fun _ => .pure _

theorem encodeArgs_proper (operation : Operation) : Proper (encodeArgs operation) := by
  cases operation with
  | write address | read address => exact (toUInt64_proper address).bind fun _ => .pure _
  | send | recv => exact .pure _
  | writeImm address immediate =>
      exact (toUInt64_proper address).bind fun _ =>
        (toUInt32_proper immediate).bind fun _ => .pure _
  | compareSwap address compare value =>
      exact (toUInt64_proper address).bind fun _ =>
        (toUInt64_proper compare).bind fun _ => (toUInt64_proper value).bind fun _ => .pure _
  | fetchAdd address value =>
      exact (toUInt64_proper address).bind fun _ => (toUInt64_proper value).bind fun _ => .pure _

theorem encodeRequest_proper (request : Request) : Proper (encodeRequest request) :=
  (toUInt64_proper request.peer).bind fun _ => (toUInt64_proper request.length).bind fun _ =>
    (encodeArgs_proper request.operation).bind fun _ => .pure _

/-- One entry that overflows stops the array. -/
theorem encodeRequests_proper (requests : List Request) :
    Proper (requests.mapM encodeRequest) := by
  induction requests with
  | nil => exact .pure _
  | cons request rest inductionHypothesis =>
      rw [List.mapM_cons]
      exact (encodeRequest_proper request).bind fun _ => inductionHypothesis.bind fun _ => .pure _

end Rdma101.Abi
