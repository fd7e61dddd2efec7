/-
Module: Rdma101.Abi.Statuses
Purpose: The status codec: the C++ and the Rust encoder, the Python decoder with the operation
  types it remembers, and what the decoder reads, returns and rejects.
Trusted boundary: human-reviewed translation of the two encode_status and of the loop of
  get_transfer_statuses
Main exports: Cpp.encodeStatus, Rust.encodeStatus, decodeStatus, decodeStatuses,
  Native.TransferStatus.Answers, SameStatus, Inconsistent
-/
import Rdma101.Abi.Header

namespace Rdma101.Abi

/-! ### The encoders

C++ aborts on a failure without an error, and has such values; in Rust they do not exist. -/

/-- `encode_result`. -/
def Cpp.encodeResult : Cpp.ResultCode → Int32
  | .ok => R101.ok
  | .unimplemented => R101.unimplemented
  | .invalid => R101.invalid
  | .busy => R101.busy
  | .ioError => R101.ioError
  | .timeout => R101.timeout
  | .unsupported => R101.unsupported
  | .noMemory => R101.noMemory
  | .invalidState => R101.invalidState
  | .canceled => R101.canceled

/-- `encode_error`. -/
def Rust.encodeError : Rust.Error → Int32
  | .unimplemented => R101.unimplemented
  | .invalid => R101.invalid
  | .busy => R101.busy
  | .io => R101.ioError
  | .timeout => R101.timeout
  | .unsupported => R101.unsupported
  | .noMemory => R101.noMemory
  | .invalidState => R101.invalidState
  | .canceled => R101.canceled

/-- `r101_transfer_status output{}`. -/
def R101TransferStatus.zero : R101TransferStatus where
  state := R101.pending
  error := R101.ok
  receive := { kind := 0, immediate := 0, length := 0 }

/-- The receive block of a completed task. -/
def encodeReceive : Option Native.ReceiveResult → R101ReceiveResult
  | some (.message length) => { kind := R101.recvMessage, immediate := 0, length := length }
  | some (.writeNotice immediate) =>
      { kind := R101.recvWriteImm, immediate := immediate, length := 0 }
  | none => { kind := 0, immediate := 0, length := 0 }

/-- The C++ `encode_status`; `none` is `std::abort()`. -/
def Cpp.encodeStatus : Native.TransferStatus Cpp.ResultCode → Option R101TransferStatus
  | .failed error =>
      if error = .ok then none
      else some { R101TransferStatus.zero with
        state := R101.failed
        error := Cpp.encodeResult error }
  | .completed receive =>
      some { R101TransferStatus.zero with
        state := R101.completed
        receive := encodeReceive receive }
  | .pending => some { R101TransferStatus.zero with state := R101.pending }

/-- The Rust `encode_status`. -/
def Rust.encodeStatus : Native.TransferStatus Rust.Error → R101TransferStatus
  | .pending => R101TransferStatus.zero
  | .failed error =>
      { R101TransferStatus.zero with
        state := R101.failed
        error := Rust.encodeError error }
  | .completed receive =>
      { R101TransferStatus.zero with
        state := R101.completed
        receive := encodeReceive receive }

/-! ### The decoder -/

/-- One round of the loop of `get_transfer_statuses`. -/
def decodeStatus (index : Nat) (status : R101TransferStatus) (operation : OperationType) :
    Except Raised TransferStatus :=
  if status.state = R101.failed then
    (errorCode status.error).map .failed
  else if status.error ≠ R101.ok then
    throw (.runtimeError s!"task {index}: non-failed status has an error")
  else if status.state = R101.pending then
    pure .pending
  else if status.state = R101.completed then
    if operation = .recv then
      if status.receive.kind = R101.recvMessage then
        if status.receive.immediate ≠ 0 then
          throw (.runtimeError s!"task {index}: message has nonzero immediate")
        else
          pure (.completed (some (.message status.receive.length.toNat)))
      else if status.receive.kind = R101.recvWriteImm then
        if status.receive.length ≠ 0 then
          throw (.runtimeError s!"task {index}: write notice has nonzero length")
        else
          pure (.completed (some (.writeNotice status.receive.immediate.toNat)))
      else
        let kind := status.receive.kind
        throw (.runtimeError s!"task {index}: invalid receive kind {kind}")
    else
      pure (.completed none)
  else
    let state := status.state
    throw (.runtimeError s!"task {index}: invalid transfer state {state}")

/-- The loop, from `index` on. -/
def decodeFrom (index : Nat) :
    List R101TransferStatus → List OperationType → Except Raised (List TransferStatus)
  | status :: statuses, operation :: operations => do
      let result ← decodeStatus index status operation
      let results ← decodeFrom (index + 1) statuses operations
      return result :: results
  | _, _ => return []

def decodeStatuses (statuses : List R101TransferStatus) (operations : List OperationType) :
    Except Raised (List TransferStatus) :=
  decodeFrom 0 statuses operations

/-! ### One status

A status that is possible for its task comes back with the same content.  An entry that
contradicts itself, or the type of its task, is rejected; `Inconsistent` lists the ways. -/

/-- A task has a receive result exactly when it is a receive. -/
def ReceiveAnswers (operation : OperationType) (receive : Option Native.ReceiveResult) : Prop :=
  receive.isSome ↔ operation = .recv

/-- A status that a task with this operation can have. -/
def Native.TransferStatus.Answers {ε : Type} (operation : OperationType) :
    Native.TransferStatus ε → Prop
  | .completed receive => ReceiveAnswers operation receive
  | .pending | .failed _ => True

theorem decodeStatus_pending (index : Nat) (operation : OperationType)
    (receive : R101ReceiveResult) :
    decodeStatus index ⟨R101.pending, R101.ok, receive⟩ operation = .ok .pending := rfl

theorem decodeStatus_failed (index : Nat) (operation : OperationType)
    (receive : R101ReceiveResult) (code : ErrorCode) :
    decodeStatus index ⟨R101.failed, code.toR101, receive⟩ operation = .ok (.failed code) := by
  cases code <;> rfl

theorem decodeStatus_completed {index : Nat} {operation : OperationType}
    {receive : Option Native.ReceiveResult} (answers : ReceiveAnswers operation receive) :
    decodeStatus index ⟨R101.completed, R101.ok, encodeReceive receive⟩ operation =
      .ok (.completed (receive.map Native.ReceiveResult.toPython)) := by
  cases receive with
  | none =>
      have notReceive : operation ≠ .recv := fun isReceive => by
        simpa using answers.mpr isReceive
      cases operation <;> first | rfl | exact absurd rfl notReceive
  | some result =>
      obtain rfl : operation = .recv := answers.mp rfl
      cases result <;> rfl

/-- The entries of C++ decode to the status with the same content. -/
theorem Cpp.decode_encodeStatus {status : Native.TransferStatus Cpp.ResultCode}
    {result : TransferStatus} {operation : OperationType} (index : Nat)
    (answers : status.Answers operation)
    (same : status.toPython? Cpp.ResultCode.errorCode? = some result) :
    ∃ entry, Cpp.encodeStatus status = some entry ∧
      decodeStatus index entry operation = .ok result := by
  cases status with
  | pending =>
      obtain rfl : TransferStatus.pending = result := Option.some.inj same
      exact ⟨_, rfl, decodeStatus_pending index operation _⟩
  | completed receive =>
      obtain rfl := Option.some.inj same
      exact ⟨_, rfl, decodeStatus_completed answers⟩
  | failed error =>
      obtain ⟨code, named, rfl⟩ := Option.map_eq_some_iff.mp same
      have notOk : error ≠ .ok := by
        rintro rfl
        cases named
      have encoded : Cpp.encodeResult error = code.toR101 := by
        cases error <;> cases named <;> rfl
      refine ⟨_, by rw [Cpp.encodeStatus, if_neg notOk], ?_⟩
      rw [encoded]
      exact decodeStatus_failed index operation _ code

/-- The entries of Rust decode to the status with the same content. -/
theorem Rust.decode_encodeStatus {status : Native.TransferStatus Rust.Error}
    {result : TransferStatus} {operation : OperationType} (index : Nat)
    (answers : status.Answers operation)
    (same : status.toPython? (fun error => some error.errorCode) = some result) :
    decodeStatus index (Rust.encodeStatus status) operation = .ok result := by
  cases status with
  | pending =>
      obtain rfl : TransferStatus.pending = result := Option.some.inj same
      exact decodeStatus_pending index operation _
  | completed receive =>
      obtain rfl := Option.some.inj same
      exact decodeStatus_completed answers
  | failed error =>
      obtain rfl := Option.some.inj same
      have encoded : Rust.encodeError error = error.errorCode.toR101 := by cases error <;> rfl
      rw [Rust.encodeStatus, encoded]
      exact decodeStatus_failed index operation _ error.errorCode

/-- The same entry up to a receive block that is not defined. -/
structure SameStatus (operation : OperationType) (first second : R101TransferStatus) : Prop where
  state : first.state = second.state
  error : first.error = second.error
  receive : first.state = R101.completed → operation = .recv → first.receive = second.receive

theorem SameStatus.decode {operation : OperationType} {first second : R101TransferStatus}
    (same : SameStatus operation first second) (index : Nat) :
    decodeStatus index first operation = decodeStatus index second operation := by
  obtain ⟨state, error, receive⟩ := first
  obtain ⟨state', error', receive'⟩ := second
  obtain ⟨rfl, rfl, defined⟩ := same
  by_cases isReceive : state = R101.completed ∧ operation = .recv
  · obtain rfl : receive = receive' := defined isReceive.1 isReceive.2
    rfl
  · by_cases isCompleted : state = R101.completed
    · have notReceive : operation ≠ .recv := fun isRecv => isReceive ⟨isCompleted, isRecv⟩
      simp [decodeStatus, isCompleted, notReceive]
    · simp [decodeStatus, isCompleted]

/-- An entry that contradicts itself or the type of its task. -/
inductive Inconsistent (operation : OperationType) (status : R101TransferStatus) : Prop where
  | state (notPending : status.state ≠ R101.pending) (notCompleted : status.state ≠ R101.completed)
      (notFailed : status.state ≠ R101.failed)
  | error (notFailed : status.state ≠ R101.failed) (hasError : status.error ≠ R101.ok)
  | unknownError (isFailed : status.state = R101.failed)
      (unknown : ∀ code : ErrorCode, status.error ≠ code.toR101)
  | kind (isCompleted : status.state = R101.completed) (isReceive : operation = .recv)
      (notMessage : status.receive.kind ≠ R101.recvMessage)
      (notNotice : status.receive.kind ≠ R101.recvWriteImm)
  | message (isCompleted : status.state = R101.completed) (isReceive : operation = .recv)
      (isMessage : status.receive.kind = R101.recvMessage)
      (immediate : status.receive.immediate ≠ 0)
  | notice (isCompleted : status.state = R101.completed) (isReceive : operation = .recv)
      (isNotice : status.receive.kind = R101.recvWriteImm) (length : status.receive.length ≠ 0)

theorem decodeStatus_unexpectedError {operation : OperationType} {status : R101TransferStatus}
    (index : Nat) (notFailed : status.state ≠ R101.failed) (hasError : status.error ≠ R101.ok) :
    decodeStatus index status operation =
      .error (.runtimeError s!"task {index}: non-failed status has an error") := by
  simp [decodeStatus, notFailed, hasError]
  rfl

theorem Inconsistent.rejected {operation : OperationType} {status : R101TransferStatus}
    (inconsistent : Inconsistent operation status) (index : Nat) :
    ∃ error, decodeStatus index status operation = .error error := by
  by_cases isFailed : status.state = R101.failed
  · cases inconsistent with
    | state _ _ notFailed | error notFailed => exact absurd isFailed notFailed
    | kind isCompleted | message isCompleted | notice isCompleted =>
        exact absurd (isFailed.symm.trans isCompleted) (by decide)
    | unknownError _ unknown =>
        cases search : errorCode status.error with
        | ok code => exact absurd (errorCode_eq_ok_iff.mp search) (unknown code)
        | error error =>
            refine ⟨error, ?_⟩
            simp [decodeStatus, isFailed, search, Except.map]
  by_cases hasError : status.error ≠ R101.ok
  · exact ⟨_, decodeStatus_unexpectedError index isFailed hasError⟩
  cases inconsistent with
  | unknownError failed => exact absurd failed isFailed
  | error _ error => exact absurd error hasError
  | state notPending notCompleted =>
      let state := status.state
      refine ⟨.runtimeError s!"task {index}: invalid transfer state {state}", ?_⟩
      simp only [decodeStatus, isFailed, hasError, notPending, notCompleted, if_false]
      rfl
  | kind isCompleted isReceive notMessage notNotice =>
      have notPending : status.state ≠ R101.pending := by rw [isCompleted]; decide
      let kind := status.receive.kind
      refine ⟨.runtimeError s!"task {index}: invalid receive kind {kind}", ?_⟩
      simp only [decodeStatus, isFailed, hasError, notPending, notMessage, notNotice, if_false,
        if_pos isCompleted, if_pos isReceive]
      rfl
  | message isCompleted isReceive isMessage immediate =>
      have notPending : status.state ≠ R101.pending := by rw [isCompleted]; decide
      refine ⟨.runtimeError s!"task {index}: message has nonzero immediate", ?_⟩
      simp only [decodeStatus, isFailed, hasError, notPending, if_false, if_pos isCompleted,
        if_pos isReceive, if_pos isMessage, if_pos immediate]
      rfl
  | notice isCompleted isReceive isNotice length =>
      have notPending : status.state ≠ R101.pending := by rw [isCompleted]; decide
      have notMessage : status.receive.kind ≠ R101.recvMessage := by rw [isNotice]; decide
      refine ⟨.runtimeError s!"task {index}: write notice has nonzero length", ?_⟩
      simp only [decodeStatus, isFailed, hasError, notPending, notMessage, if_false,
        if_pos isCompleted, if_pos isReceive, if_pos isNotice, if_pos length]
      rfl

/-! ### The array

By induction on the array, with the index of the round, since the messages of the decoder name
it. -/

/-- Statuses that decode one by one, encoded in order, decode to the same list. -/
theorem decodeFrom_encoded {ε : Type}
    {encode : Native.TransferStatus ε → Option R101TransferStatus}
    {errorCode? : ε → Option ErrorCode}
    (each : ∀ index operation status result, status.Answers operation →
      status.toPython? errorCode? = some result →
      ∃ entry, encode status = some entry ∧ decodeStatus index entry operation = .ok result)
    {statuses : List (Native.TransferStatus ε)} {operations : List OperationType}
    (answers : List.Forall₂ (fun status operation => status.Answers operation) statuses operations)
    {results : List TransferStatus}
    (same : statuses.mapM (Native.TransferStatus.toPython? errorCode?) = some results)
    (index : Nat) :
    ∃ entries, statuses.mapM encode = some entries ∧ entries.length = operations.length ∧
      decodeFrom index entries operations = .ok results := by
  induction answers generalizing index results with
  | nil =>
      obtain rfl : [] = results := Option.some.inj same
      exact ⟨[], rfl, rfl, rfl⟩
  | @cons status operation statuses operations answer _ inductionHypothesis =>
      rw [List.mapM_cons] at same
      obtain ⟨result, sameHead, same⟩ := Option.bind_eq_some_iff.mp same
      obtain ⟨rest, sameTail, same⟩ := Option.bind_eq_some_iff.mp same
      obtain rfl : result :: rest = results := Option.some.inj same
      obtain ⟨entry, encoded, decoded⟩ := each index operation status result answer sameHead
      obtain ⟨entries, encodedRest, filled, decodedRest⟩ :=
        inductionHypothesis sameTail (index + 1)
      refine ⟨entry :: entries, ?_, by rw [List.length_cons, filled, List.length_cons], ?_⟩
      · rw [List.mapM_cons, encoded, encodedRest]
        rfl
      · rw [decodeFrom, decoded, decodedRest]
        rfl

/-- Receive blocks that are not defined do not matter at any place of the array. -/
theorem decodeFrom_congr {first second : List R101TransferStatus}
    {operations : List OperationType} (sameLength : first.length = second.length)
    (same : ∀ (position : Nat) operation entry entry', operations[position]? = some operation →
      first[position]? = some entry → second[position]? = some entry' →
      SameStatus operation entry entry') (index : Nat) :
    decodeFrom index first operations = decodeFrom index second operations := by
  induction operations generalizing first second index with
  | nil => cases first <;> cases second <;> rfl
  | cons operation operations inductionHypothesis =>
      cases first with
      | nil =>
          obtain rfl : second = [] := List.length_eq_zero_iff.mp sameLength.symm
          rfl
      | cons entry entries =>
          cases second with
          | nil => cases sameLength
          | cons entry' entries' =>
              have head : SameStatus operation entry entry' := same 0 _ _ _ rfl rfl rfl
              have tail : decodeFrom (index + 1) entries operations =
                  decodeFrom (index + 1) entries' operations := by
                apply inductionHypothesis
                · simpa using sameLength
                · intro position
                  exact same (position + 1)
              rw [decodeFrom, decodeFrom, head.decode index, tail]

/-- One inconsistent entry makes the whole array be rejected. -/
theorem decodeFrom_rejects {entries : List R101TransferStatus} {operations : List OperationType}
    {position : Nat} {entry : R101TransferStatus} {operation : OperationType}
    (inEntries : entries[position]? = some entry)
    (inOperations : operations[position]? = some operation)
    (inconsistent : Inconsistent operation entry) (index : Nat) :
    ∃ error, decodeFrom index entries operations = .error error := by
  induction entries generalizing operations position index with
  | nil => cases inEntries
  | cons first rest inductionHypothesis =>
      cases operations with
      | nil => cases inOperations
      | cons type types =>
          cases decoded : decodeStatus index first type with
          | error error => exact ⟨error, by rw [decodeFrom, decoded]; rfl⟩
          | ok result =>
              cases position with
              | zero =>
                  obtain rfl : first = entry := Option.some.inj inEntries
                  obtain rfl : type = operation := Option.some.inj inOperations
                  obtain ⟨error, rejected⟩ := inconsistent.rejected index
                  rw [decoded] at rejected
                  cases rejected
              | succ position =>
                  obtain ⟨error, rejected⟩ :=
                    inductionHypothesis inEntries inOperations (index + 1)
                  exact ⟨error, by rw [decodeFrom, decoded, rejected]; rfl⟩

end Rdma101.Abi
