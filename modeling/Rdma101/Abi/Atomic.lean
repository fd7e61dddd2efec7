/-
Module: Rdma101.Abi.Atomic
Purpose: The calls of the C++ and of the Rust adapter are atomic: an array of requests is submitted
  as a whole or not at all, statuses are written as a whole or not at all, and a call that fails
  leaves its outputs cleared.
Trusted boundary: none
Main exports: AtomicSubmit, AtomicQuery, OutputsCleared, adapter_calls_atomic
-/
import Rdma101.Abi.OneAbi

namespace Rdma101.Abi

/-! ### What the caller finds

Outputs are words behind pointers and entries of the caller's array.  What is there after a call
is the last assignment, so the properties below are about the list of assignments as a whole and
not about single ones. -/

/-- The value that was assigned through the pointer last. -/
def lastWord (pointer : UInt64) : List Write → Option UInt64
  | [] => none
  | .word target value :: rest =>
      (lastWord pointer rest).or (if target = pointer then some value else none)
  | .status _ _ _ :: rest => lastWord pointer rest

/-- The caller's array after one assignment. -/
def assign (array : UInt64) (entries : List R101TransferStatus) : Write →
    List R101TransferStatus
  | .status target index value => if target = array then entries.set index value else entries
  | .word _ _ => entries

def filled (array : UInt64) (before : List R101TransferStatus) (writes : List Write) :
    List R101TransferStatus :=
  writes.foldl (assign array) before

/-- The output pointers. -/
def R101Call.outputs : R101Call → List UInt64
  | .createEngine _ engine => [engine]
  | .registerLocalMemory _ _ _ _ memory metadata metadataSize => [memory, metadata, metadataSize]
  | .importRemoteMemory _ _ _ _ remoteMemory => [remoteMemory]
  | .createPeer _ peer metadata metadataSize => [peer, metadata, metadataSize]
  | .submitTransfer _ _ _ _ batch => [batch]
  | _ => []

/-- The call returns an error. -/
def Outcome.Fails (outcome : Outcome) : Prop :=
  ∃ code, outcome.result = some code ∧ code ≠ R101.ok

/-! ### The properties -/

/-- What is submitted, if anything, is the whole array as decoded.  `allocated` says that the
adapter obtains the storage for it. -/
structure AtomicSubmit (decode : R101Request → Option Native.Request) (allocated : Bool)
    (engine requests : UInt64) (entries : Nat → R101Request) (count batch : UInt64)
    (outcome : Outcome) : Prop where
  once : outcome.calls = [] ∨ ∃ decoded, outcome.calls = [.submitTransfer engine decoded]
  exactlyWhen : outcome.calls ≠ [] ↔
    (batch ≠ 0 ∧ engine ≠ 0 ∧ Cpp.validArray 56 8 requests count = true ∧
      ∀ index < count.toNat, (decode (entries index)).isSome = true) ∧ allocated = true
  inOrder : ∀ decoded, outcome.calls = [.submitTransfer engine decoded] →
    decoded.map some = contents (fun index => decode (entries index)) count.toNat
  rejects : ∀ index < count.toNat, decode (entries index) = none →
    outcome.calls = [] ∧ (allocated = true → outcome.result = some R101.invalid)
  noMemory : batch ≠ 0 → engine ≠ 0 → Cpp.validArray 56 8 requests count = true →
    allocated = false → outcome.calls = [] ∧ outcome.result = some R101.noMemory
  cleared : batch ≠ 0 → outcome.result ≠ some R101.ok → lastWord batch outcome.writes = some 0

/-- Of the statuses, all are written or none. -/
structure AtomicQuery (encode : Nat → Option R101TransferStatus) (statuses count : UInt64)
    (outcome : Outcome) : Prop where
  unchanged : outcome.Fails → outcome.writes = []
  filled : outcome.result = some R101.ok → ∀ before : List R101TransferStatus,
    before.length = count.toNat →
    (filled statuses before outcome.writes).map some = contents encode count.toNat

/-- The outputs of a call that fails are zero or null, if the pointers to them are valid. -/
def OutputsCleared (call : R101Call) (outcome : Outcome) : Prop :=
  outcome.Fails → 0 ∉ call.outputs → ∀ pointer ∈ call.outputs,
    lastWord pointer outcome.writes = some 0

/-! ### Cleared outputs -/

/-- Behind a pointer that is cleared there is zero, behind any other nothing new. -/
theorem lastWord_clear (pointer : UInt64) (pointers : List UInt64) :
    lastWord pointer (clear pointers) = if pointer ∈ pointers then some 0 else none := by
  induction pointers with
  | nil => rfl
  | cons first rest inductionHypothesis =>
      have unfolded : lastWord pointer (clear (first :: rest)) =
          (lastWord pointer (clear rest)).or (if first = pointer then some 0 else none) := rfl
      rw [unfolded, inductionHypothesis]
      by_cases later : pointer ∈ rest
      · rw [if_pos later, if_pos (List.mem_cons_of_mem first later)]
        rfl
      · rw [if_neg later, Option.none_or]
        simp only [List.mem_cons, later, or_false, eq_comm]

/-- An early return finds its outputs cleared. -/
theorem early_cleared {pointers : List UInt64} {code : Int32} {pointer : UInt64}
    (member : pointer ∈ pointers) :
    lastWord pointer (Outcome.early code (clear pointers)).writes = some 0 := by
  rw [Outcome.early, lastWord_clear, if_pos member]

theorem Cpp.encodeResult_eq_ok {code : Cpp.ResultCode} :
    encodeResult code = R101.ok ↔ code = .ok := by
  cases code <;> decide

theorem Rust.encodeError_ne_ok (error : Rust.Error) : encodeError error ≠ R101.ok := by
  cases error <;> decide

/-- An operation of the engine that fails leaves the outputs as they were cleared. -/
theorem Cpp.enter_cleared {native : Cpp.Engine} {call : EngineCall} {cleared : List Write}
    {commit : UInt64 → Span → List Write}
    (notOk : (Cpp.enter native call cleared commit).result ≠ some R101.ok) :
    (Cpp.enter native call cleared commit).writes = cleared := by
  revert notOk
  unfold Cpp.enter
  cases native call with
  | none => exact fun _ => rfl
  | some reply =>
      intro notOk
      have failed : reply.result ≠ .ok := fun isOk =>
        notOk (congrArg some (Cpp.encodeResult_eq_ok.mpr isOk))
      simp only [if_neg failed, List.append_nil]

/-- So does an operation of Rust that fails, or is refused before it calls the engine. -/
theorem Rust.enter_cleared {native : Rust.Engine} {prepared : Except Rust.Error EngineCall}
    {cleared : List Write} {commit : UInt64 → Span → List Write}
    (notOk : (Rust.enter native prepared cleared commit).result ≠ some R101.ok) :
    (Rust.enter native prepared cleared commit).writes = cleared := by
  revert notOk
  unfold Rust.enter
  cases prepared with
  | error error => exact fun _ => rfl
  | ok call =>
      simp only
      cases native call with
      | none => exact fun _ => rfl
      | some reply =>
          simp only
          cases reply.result with
          | error error => exact fun _ => rfl
          | ok value => exact fun notOk => absurd rfl notOk

/-! ### Submission

Both functions have the same ways through: refused before the decoding, storage not obtained, an
entry that is not decoded, or the engine called with the whole decoded array.  `SubmitCourse`
lists them once; what follows for the caller is then proved for a course and not for each
language. -/

section Submission

variable {α β : Type} {decode : α → Option β} {entries : List α}

/-- An array is decoded when every entry is. -/
theorem isSome_mapM : (entries.mapM decode).isSome = true ↔
    ∀ entry ∈ entries, (decode entry).isSome = true := by
  induction entries with
  | nil => simp
  | cons first rest inductionHypothesis =>
      rw [List.mapM_cons, List.forall_mem_cons, ← inductionHypothesis]
      cases decode first with
      | none => simp
      | some decoded => cases rest.mapM decode <;> simp

/-- No entry is lost, repeated or moved. -/
theorem map_some_of_mapM {decoded : List β} (all : entries.mapM decode = some decoded) :
    decoded.map some = entries.map decode := by
  induction entries generalizing decoded with
  | nil =>
      obtain rfl : [] = decoded := Option.some.inj all
      rfl
  | cons first rest inductionHypothesis =>
      rw [List.mapM_cons] at all
      obtain ⟨head, decodedFirst, all⟩ := Option.bind_eq_some_iff.mp all
      obtain ⟨tail, decodedRest, all⟩ := Option.bind_eq_some_iff.mp all
      obtain rfl : head :: tail = decoded := Option.some.inj all
      rw [List.map_cons, List.map_cons, inductionHypothesis decodedRest, decodedFirst]

end Submission

/-- The engine is called, and the outputs stay cleared when it fails. -/
structure Enters (call : EngineCall) (cleared : List Write) (outcome : Outcome) : Prop where
  calls : outcome.calls = [call]
  cleared : outcome.result ≠ some R101.ok → outcome.writes = cleared

/-- Behind its checks, C++ calls the engine once. -/
theorem Cpp.enters (native : Cpp.Engine) (call : EngineCall) (cleared : List Write)
    (commit : UInt64 → Span → List Write) :
    Enters call cleared (Cpp.enter native call cleared commit) := by
  refine ⟨?_, Cpp.enter_cleared⟩
  unfold Cpp.enter
  cases native call <;> rfl

theorem Rust.enters (native : Rust.Engine) (call : EngineCall) (cleared : List Write)
    (commit : UInt64 → Span → List Write) :
    Enters call cleared (Rust.enter native (.ok call) cleared commit) := by
  refine ⟨?_, Rust.enter_cleared⟩
  simp only [Rust.enter]
  cases native call with
  | none => rfl
  | some reply => cases result : reply.result <;> simp only [result]

/-- The ways through `r101_submit_transfer`. -/
inductive SubmitCourse (decode : R101Request → Option Native.Request) (allocated : Bool)
    (engine requests : UInt64) (entries : Nat → R101Request) (count batch : UInt64) :
    Outcome → Prop where
  | noOutput (null : batch = 0) :
      SubmitCourse decode allocated engine requests entries count batch (.early R101.invalid [])
  | refused (output : batch ≠ 0)
      (invalid : engine = 0 ∨ Cpp.validArray 56 8 requests count = false) :
      SubmitCourse decode allocated engine requests entries count batch
        (.early R101.invalid (clear [batch]))
  | noMemory (output : batch ≠ 0) (engineValid : engine ≠ 0)
      (arrayValid : Cpp.validArray 56 8 requests count = true) (unallocated : allocated = false) :
      SubmitCourse decode allocated engine requests entries count batch
        (.early R101.noMemory (clear [batch]))
  | undecodable (output : batch ≠ 0) (enough : allocated = true)
      (invalid : (contents entries count.toNat).mapM decode = none) :
      SubmitCourse decode allocated engine requests entries count batch
        (.early R101.invalid (clear [batch]))
  | entered {decoded : List Native.Request} {outcome : Outcome} (output : batch ≠ 0)
      (engineValid : engine ≠ 0) (arrayValid : Cpp.validArray 56 8 requests count = true)
      (enough : allocated = true)
      (valid : (contents entries count.toNat).mapM decode = some decoded)
      (enters : Enters (.submitTransfer engine decoded) (clear [batch]) outcome) :
      SubmitCourse decode allocated engine requests entries count batch outcome

/-- What holds of the contents of an array holds at every index below its length. -/
theorem forall_contents {α : Type} {property : α → Prop} {entries : Nat → α} {count : Nat} :
    (∀ entry ∈ contents entries count, property entry) ↔
      ∀ index < count, property (entries index) := by
  simp [contents]

/-- Whatever the way through the function was, the submission is atomic. -/
theorem SubmitCourse.atomic {decode : R101Request → Option Native.Request} {allocated : Bool}
    {engine requests : UInt64} {entries : Nat → R101Request} {count batch : UInt64}
    {outcome : Outcome}
    (course : SubmitCourse decode allocated engine requests entries count batch outcome) :
    AtomicSubmit decode allocated engine requests entries count batch outcome := by
  have all : (∀ index < count.toNat, (decode (entries index)).isSome = true) ↔
      ((contents entries count.toNat).mapM decode).isSome = true :=
    (isSome_mapM.trans forall_contents).symm
  have rejected : ∀ {code : Int32} {writes : List Write},
      ¬((batch ≠ 0 ∧ engine ≠ 0 ∧ Cpp.validArray 56 8 requests count = true ∧
        ∀ index < count.toNat, (decode (entries index)).isSome = true) ∧ allocated = true) →
      (allocated = true → code = R101.invalid) →
      (batch ≠ 0 → engine ≠ 0 → Cpp.validArray 56 8 requests count = true →
        allocated = false → code = R101.noMemory) →
      (batch ≠ 0 → lastWord batch writes = some 0) →
      AtomicSubmit decode allocated engine requests entries count batch (.early code writes) := by
    intro code writes refused isInvalid isNoMemory cleared
    refine ⟨.inl rfl, iff_of_false (fun called => called rfl) refused, fun decoded same => ?_,
      fun _ _ _ => ⟨rfl, fun enough => congrArg some (isInvalid enough)⟩,
      fun output engineValid arrayValid unallocated =>
        ⟨rfl, congrArg some (isNoMemory output engineValid arrayValid unallocated)⟩,
      fun output _ => cleared output⟩
    cases same
  have clearedBatch : lastWord batch (clear [batch]) = some 0 := by
    rw [lastWord_clear, if_pos (List.mem_singleton_self batch)]
  cases course with
  | noOutput null =>
      refine rejected (fun valid => valid.1.1 null) (fun _ => rfl) ?_ fun output => ?_
      · exact fun output => absurd null output
      · exact absurd null output
  | refused output invalid =>
      refine rejected (fun valid => ?_) (fun _ => rfl) ?_ fun _ => clearedBatch
      · rcases invalid with null | invalid
        · exact valid.1.2.1 null
        · exact Bool.false_ne_true (invalid.symm.trans valid.1.2.2.1)
      · intro _ engineValid arrayValid
        rcases invalid with null | invalid
        · exact absurd null engineValid
        · exact absurd (invalid.symm.trans arrayValid) Bool.false_ne_true
  | noMemory output engineValid arrayValid unallocated =>
      refine rejected (fun valid => ?_) (fun enough => ?_) (fun _ _ _ _ => rfl)
        fun _ => clearedBatch
      · exact Bool.false_ne_true (unallocated.symm.trans valid.2)
      · exact absurd (unallocated.symm.trans enough) Bool.false_ne_true
  | undecodable output enough invalid =>
      refine rejected (fun valid => ?_) (fun _ => rfl) ?_ fun _ => clearedBatch
      · have decoded := all.mp valid.1.2.2.2
        rw [invalid] at decoded
        cases decoded
      · exact fun _ _ _ unallocated =>
          absurd (unallocated.symm.trans enough) Bool.false_ne_true
  | entered output engineValid arrayValid enough valid enters =>
      have decoded := all.mpr (Option.isSome_iff_exists.mpr ⟨_, valid⟩)
      have called : outcome.calls ≠ [] := by
        rw [enters.calls]
        exact List.cons_ne_nil _ _
      refine ⟨.inr ⟨_, enters.calls⟩, iff_of_true called
        ⟨⟨output, engineValid, arrayValid, decoded⟩, enough⟩, fun passed same => ?_,
        fun index below undecoded => ?_, fun _ _ _ unallocated => ?_, fun _ notOk => ?_⟩
      · rw [enters.calls] at same
        obtain ⟨-, rfl⟩ := EngineCall.submitTransfer.inj (List.head_eq_of_cons_eq same)
        rw [map_some_of_mapM valid, contents, List.map_map]
        rfl
      · have isDecoded := decoded index below
        rw [undecoded] at isDecoded
        cases isDecoded
      · exact absurd (unallocated.symm.trans enough) Bool.false_ne_true
      · rw [enters.cleared notOk, clearedBatch]

/-- `r101_submit_transfer` of C++: storage for the array is obtained before its entries are
decoded. -/
theorem Cpp.submitTransfer_course (allocates : Nat → Bool) (native : Cpp.Engine)
    (engine requests : UInt64) (entries : Nat → R101Request) (count batch : UInt64) :
    SubmitCourse decodeRequest (allocates count.toNat) engine requests entries count batch
      (submitTransfer allocates native engine requests entries count batch) := by
  unfold submitTransfer
  by_cases noOutput : batch = 0
  · rw [if_pos noOutput]
    exact .noOutput noOutput
  rw [if_neg noOutput]
  by_cases invalid : engine = 0 ∨ validArray 56 8 requests count = false
  · rw [if_pos invalid]
    exact .refused noOutput invalid
  rw [if_neg invalid]
  obtain ⟨engineValid, notInvalid⟩ := not_or.mp invalid
  have arrayValid : validArray 56 8 requests count = true := Bool.not_eq_false _ ▸ notInvalid
  cases enough : allocates count.toNat with
  | false => exact .noMemory noOutput engineValid arrayValid rfl
  | true =>
      cases decoded : (contents entries count.toNat).mapM decodeRequest with
      | none => exact .undecodable noOutput rfl decoded
      | some requests =>
          exact .entered noOutput engineValid arrayValid rfl decoded (enters native _ _ _)

/-- The decoder of Rust, with `None` for an error. -/
theorem Rust.toOption_decodeRequest (request : R101Request) :
    (Rust.decodeRequest request).toOption = Cpp.decodeRequest request := by
  rw [Rust.decodeRequest_eq]
  cases Cpp.decodeRequest request <;> rfl

/-- The one of Rust, where all of this happens inside the closure. -/
theorem Rust.submitTransfer_course (allocates : Nat → Bool) (native : Rust.Engine)
    (engine requests : UInt64) (entries : Nat → R101Request) (count batch : UInt64) :
    SubmitCourse (fun request => (decodeRequest request).toOption) (allocates count.toNat) engine
      requests entries count batch
      (submitTransfer allocates native engine requests entries count batch) := by
  simp only [toOption_decodeRequest]
  unfold submitTransfer
  by_cases noOutput : batch = 0
  · rw [if_pos noOutput]
    exact .noOutput noOutput
  rw [if_neg noOutput, arrayLen_eq, engineMut]
  cases arrayValid : Cpp.validArray 56 8 requests count with
  | false => exact .refused noOutput (.inr arrayValid)
  | true =>
      by_cases null : engine = 0
      · rw [if_pos null]
        exact .refused noOutput (.inl null)
      have decoding := mapM_decodeRequest (contents entries count.toNat)
      simp only [null, Bind.bind, Except.bind, if_true, if_false, decoding]
      cases enough : allocates count.toNat with
      | false => exact .noMemory noOutput null arrayValid rfl
      | true =>
          cases decoded : (contents entries count.toNat).mapM Cpp.decodeRequest with
          | none => exact .undecodable noOutput rfl decoded
          | some requests =>
              exact .entered noOutput null arrayValid rfl decoded (enters native _ _ _)

/-! ### Queries

The loop of C++ writes one entry after the other, so an abort in the middle leaves some of them
written; but then the call does not return.  When it returns, all entries are written.  Rust
encodes into an array of its own and writes afterwards. -/

/-- Entries that are written one after the other fill the array. -/
theorem filled_zipIdx (array : UInt64) (values : List R101TransferStatus)
    (before after : List R101TransferStatus) (sameLength : after.length = values.length) :
    filled array (before ++ after)
      ((values.zipIdx before.length).map fun (value, index) => .status array index value) =
        before ++ values := by
  induction values generalizing before after with
  | nil =>
      obtain rfl := List.length_eq_zero_iff.mp sameLength
      rfl
  | cons value rest inductionHypothesis =>
      cases after with
      | nil => cases sameLength
      | cons first after =>
          have head : assign array (before ++ first :: after)
              (.status array before.length value) = (before ++ [value]) ++ after := by
            simp [assign]
          have onward := inductionHypothesis (before ++ [value]) after
            (Nat.succ.inj sameLength)
          rw [List.length_append, List.length_singleton] at onward
          rw [List.zipIdx_cons, List.map_cons, filled, List.foldl_cons, head]
          simpa [filled] using onward

/-- An array of the same length is filled from its first to its last entry. -/
theorem filled_all (array : UInt64) {values before : List R101TransferStatus}
    (sameLength : before.length = values.length) :
    filled array before
      (values.zipIdx.map fun (value, index) => .status array index value) = values :=
  filled_zipIdx array values [] before sameLength

/-- The loop of C++ has no other result than success. -/
theorem commitStatuses_result {array : UInt64} {index : Nat}
    {statuses : List (Native.TransferStatus Cpp.ResultCode)} {code : Int32}
    (result : (Cpp.commitStatuses array index statuses).1 = some code) : code = R101.ok := by
  induction statuses generalizing index with
  | nil => exact (Option.some.inj result).symm
  | cons status rest inductionHypothesis =>
      simp only [Cpp.commitStatuses] at result
      cases encoded : Cpp.encodeStatus status with
      | none =>
          rw [encoded] at result
          cases result
      | some value =>
          rw [encoded] at result
          exact inductionHypothesis result

/-- The loop of C++ ends with success only when it has written all entries. -/
theorem commitStatuses_ok {array : UInt64} {index : Nat}
    {statuses : List (Native.TransferStatus Cpp.ResultCode)}
    (success : (Cpp.commitStatuses array index statuses).1 = some R101.ok) :
    ∃ values : List R101TransferStatus, values.map some = statuses.map Cpp.encodeStatus ∧
      (Cpp.commitStatuses array index statuses).2 =
        (values.zipIdx index).map fun (value, index) => .status array index value := by
  induction statuses generalizing index with
  | nil => exact ⟨[], rfl, rfl⟩
  | cons status rest inductionHypothesis =>
      simp only [Cpp.commitStatuses] at success ⊢
      cases encoded : Cpp.encodeStatus status with
      | none =>
          rw [encoded] at success
          cases success
      | some value =>
          rw [encoded] at success
          obtain ⟨values, same, written⟩ := inductionHypothesis success
          refine ⟨value :: values, ?_, ?_⟩
          · rw [List.map_cons, List.map_cons, same, encoded]
          · simp only [List.zipIdx_cons, List.map_cons, written]

/-- What C++ makes of the status at an index of the engine's answer. -/
def Cpp.encodedStatus (native : Cpp.Engine) (call : EngineCall) (index : Nat) :
    Option R101TransferStatus :=
  (native call).bind fun reply => encodeStatus (reply.statuses index)

def Rust.encodedStatus (native : Rust.Engine) (call : EngineCall) (index : Nat) :
    Option R101TransferStatus :=
  (native call).map fun reply => encodeStatus (reply.statuses index)

/-- A query that returns early has written nothing. -/
theorem atomicQuery_early {encode : Nat → Option R101TransferStatus} {statuses count : UInt64}
    {code : Int32} (failed : code ≠ R101.ok) :
    AtomicQuery encode statuses count (.early code []) :=
  ⟨fun _ => rfl, fun success => absurd (Option.some.inj success) failed⟩

/-- C++ writes into the caller's array, but only after the engine has succeeded; a status that it
cannot encode aborts. -/
theorem Cpp.getTransferStatuses_atomic (allocates : Nat → Bool) (native : Cpp.Engine)
    (engine batch statuses count : UInt64) :
    AtomicQuery (encodedStatus native (.getTransferStatuses engine batch count.toNat)) statuses
      count (getTransferStatuses allocates native engine batch statuses count) := by
  unfold getTransferStatuses
  split
  · exact atomicQuery_early (by decide)
  split
  · exact atomicQuery_early (by decide)
  dsimp only
  unfold encodedStatus
  cases native (.getTransferStatuses engine batch count.toNat) with
  | none => exact ⟨fun _ => rfl, fun success => by cases success⟩
  | some reply =>
      by_cases failed : reply.result ≠ .ok
      · simp only [if_pos failed]
        refine ⟨fun _ => rfl, fun success => absurd (Option.some.inj success) ?_⟩
        exact fun isOk => failed (encodeResult_eq_ok.mp isOk)
      · simp only [if_neg failed]
        refine ⟨fun ⟨code, result, notOk⟩ => ?_, fun success before sameLength => ?_⟩
        · exact absurd (commitStatuses_result result) notOk
        · obtain ⟨values, same, written⟩ := commitStatuses_ok success
          have sameLength' : before.length = values.length := by
            have lengths := congrArg List.length same
            simp only [List.length_map, contents, List.length_range] at lengths
            rw [sameLength, lengths]
          rw [written, filled_all statuses sameLength', same, contents, List.map_map]
          rfl

/-- Rust writes the whole array once the engine has succeeded. -/
theorem Rust.getTransferStatuses_atomic (allocates : Nat → Bool) (native : Rust.Engine)
    (engine batch statuses count : UInt64) :
    AtomicQuery (encodedStatus native (.getTransferStatuses engine batch count.toNat)) statuses
      count (getTransferStatuses allocates native engine batch statuses count) := by
  unfold getTransferStatuses
  split
  · exact atomicQuery_early (by decide)
  dsimp only
  rw [arrayLen_eq, engineMut]
  by_cases arrayValid : Cpp.validArray 24 8 statuses count = true
  · by_cases null : engine = 0
    · simp only [arrayValid, null, if_true]
      exact atomicQuery_early (by decide)
    · simp only [arrayValid, null, Bind.bind, Except.bind, if_true, if_false]
      cases allocates count.toNat with
      | false => exact atomicQuery_early (by decide)
      | true =>
          simp only [Bool.true_eq_false, if_false, Pure.pure, Except.pure]
          unfold encodedStatus
          cases native (.getTransferStatuses engine batch count.toNat) with
          | none => exact ⟨fun _ => rfl, fun success => by cases success⟩
          | some reply =>
              dsimp only
              cases reply.result with
              | error error =>
                  refine ⟨fun _ => rfl, fun success => ?_⟩
                  exact absurd (Option.some.inj success) (encodeError_ne_ok error)
              | ok value =>
                  refine ⟨fun fails => ?_, fun _ before sameLength => ?_⟩
                  · obtain ⟨code, result, notOk⟩ := fails
                    exact absurd (Option.some.inj result).symm notOk
                  · have written : ((contents reply.statuses count.toNat).zipIdx.map
                        fun entry => Write.status statuses entry.2 (encodeStatus entry.1)) =
                        (((contents reply.statuses count.toNat).map encodeStatus).zipIdx.map
                          fun entry => Write.status statuses entry.2 entry.1) := by
                      rw [List.zipIdx_map, List.map_map]
                      rfl
                    dsimp only
                    rw [written, filled_all statuses]
                    · simp only [contents, List.map_map]
                      rfl
                    · simp only [sameLength, contents, List.length_map, List.length_range]
  · rw [if_neg arrayValid]
    exact atomicQuery_early (by decide)

/-! ### The other outputs

For each of the remaining functions it is enough that the outputs are cleared first and that
everything else is written behind the answer of the engine. -/

theorem outputsCleared_of_early {call : R101Call} {code : Int32} :
    OutputsCleared call (.early code (clear call.outputs)) :=
  fun _ _ _ member => early_cleared member

/-- A call with an output pointer that is null has nothing to clear. -/
theorem outputsCleared_of_null {call : R101Call} {outcome : Outcome} (null : 0 ∈ call.outputs) :
    OutputsCleared call outcome := fun _ valid => absurd null valid

theorem Outcome.Fails.not_ok {outcome : Outcome} (fails : outcome.Fails) :
    outcome.result ≠ some R101.ok := by
  obtain ⟨code, result, notOk⟩ := fails
  rw [result]
  exact fun same => notOk (Option.some.inj same)

/-- When the engine fails, the outputs are as they were cleared. -/
theorem outputsCleared_of_enters {call : R101Call} {native : EngineCall} {outcome : Outcome}
    (enters : Enters native (clear call.outputs) outcome) : OutputsCleared call outcome := by
  intro fails _ pointer member
  rw [enters.cleared fails.not_ok, lastWord_clear, if_pos member]

theorem outputsCleared_of_none {call : R101Call} {outcome : Outcome} (none_ : call.outputs = []) :
    OutputsCleared call outcome := by
  intro _ _ pointer member
  rw [none_] at member
  cases member

/-- A submission that fails leaves no batch handle behind. -/
theorem AtomicSubmit.outputsCleared {decode : R101Request → Option Native.Request}
    {allocated : Bool} {engine requests : UInt64} {entries : Nat → R101Request}
    {count batch : UInt64} {outcome : Outcome}
    (atomic : AtomicSubmit decode allocated engine requests entries count batch outcome) :
    OutputsCleared (.submitTransfer engine requests entries count batch) outcome := by
  intro fails valid pointer member
  obtain rfl := List.mem_singleton.mp member
  exact atomic.cleared (fun null => valid (null ▸ member)) fails.not_ok

/-- Every function of C++. -/
theorem Cpp.run_cleared (allocates : Nat → Bool) (native : Cpp.Engine) (call : R101Call) :
    OutputsCleared call (run allocates native call) := by
  cases call with
  | createEngine config engine =>
      simp only [run, createEngine]
      split
      · rename_i null
        exact outputsCleared_of_null (null ▸ .head _)
      cases config with
      | none => exact outputsCleared_of_early
      | some config =>
          dsimp only
          split
          · exact outputsCleared_of_early
          split
          · exact outputsCleared_of_early
          · exact outputsCleared_of_enters (enters native _ _ _)
  | registerLocalMemory engine address length access memory metadata metadataSize =>
      simp only [run, registerLocalMemory]
      split
      · rename_i null
        apply outputsCleared_of_null
        rcases null with rfl | rfl | rfl <;> simp [R101Call.outputs]
      split
      · exact outputsCleared_of_early
      cases decodeAccess access with
      | none => exact outputsCleared_of_early
      | some access => exact outputsCleared_of_enters (enters native _ _ _)
  | importRemoteMemory engine peer metadata metadataSize remoteMemory =>
      simp only [run, importRemoteMemory]
      split
      · rename_i null
        exact outputsCleared_of_null (null ▸ .head _)
      split
      · exact outputsCleared_of_early
      · exact outputsCleared_of_enters (enters native _ _ _)
  | createPeer engine peer metadata metadataSize =>
      simp only [run, createPeer]
      split
      · rename_i null
        apply outputsCleared_of_null
        rcases null with rfl | rfl | rfl <;> simp [R101Call.outputs]
      split
      · exact outputsCleared_of_early
      · exact outputsCleared_of_enters (enters native _ _ _)
  | submitTransfer engine requests entries count batch =>
      exact (submitTransfer_course allocates native engine requests entries count
        batch).atomic.outputsCleared
  | destroyEngine | deregisterLocalMemory | removeRemoteMemory | connectPeer | destroyPeer
  | getTransferStatuses | freeBatch => exact outputsCleared_of_none rfl

theorem Rust.outputsCleared_enter {call : R101Call} (native : Rust.Engine)
    (prepared : Except Error EngineCall) (commit : UInt64 → Span → List Write) :
    OutputsCleared call (enter native prepared (clear call.outputs) commit) := by
  intro fails _ pointer member
  rw [enter_cleared fails.not_ok, lastWord_clear, if_pos member]

/-- Every function of Rust. -/
theorem Rust.run_cleared (allocates : Nat → Bool) (native : Rust.Engine) (call : R101Call) :
    OutputsCleared call (run allocates native call) := by
  cases call with
  | createEngine config engine =>
      simp only [run, createEngine]
      split
      · rename_i null
        exact outputsCleared_of_null (null ▸ .head _)
      cases config with
      | none => exact outputsCleared_of_early
      | some config => exact outputsCleared_enter native _ _
  | registerLocalMemory engine address length access memory metadata metadataSize =>
      simp only [run, registerLocalMemory]
      split
      · rename_i null
        apply outputsCleared_of_null
        rcases null with rfl | rfl | rfl <;> simp [R101Call.outputs]
      · exact outputsCleared_enter native _ _
  | importRemoteMemory engine peer metadata metadataSize remoteMemory =>
      simp only [run, importRemoteMemory]
      split
      · rename_i null
        exact outputsCleared_of_null (null ▸ .head _)
      split
      · exact outputsCleared_of_early
      · exact outputsCleared_enter native _ _
  | createPeer engine peer metadata metadataSize =>
      simp only [run, createPeer]
      split
      · rename_i null
        apply outputsCleared_of_null
        rcases null with rfl | rfl | rfl <;> simp [R101Call.outputs]
      · exact outputsCleared_enter native _ _
  | submitTransfer engine requests entries count batch =>
      exact (submitTransfer_course allocates native engine requests entries count
        batch).atomic.outputsCleared
  | destroyEngine | deregisterLocalMemory | removeRemoteMemory | connectPeer | destroyPeer
  | getTransferStatuses | freeBatch => exact outputsCleared_of_none rfl

/-! ### Both adapters -/

/-- The adapter is atomic in the calls of its engine and in its outputs. -/
structure AtomicAdapter (decode : R101Request → Option Native.Request) (allocates : Nat → Bool)
    (encoded : EngineCall → Nat → Option R101TransferStatus) (run : R101Call → Outcome) :
    Prop where
  submit : ∀ engine requests entries count batch,
    AtomicSubmit decode (allocates count.toNat) engine requests entries count batch
      (run (.submitTransfer engine requests entries count batch))
  query : ∀ engine batch statuses count,
    AtomicQuery (encoded (.getTransferStatuses engine batch count.toNat)) statuses count
      (run (.getTransferStatuses engine batch statuses count))
  outputs : ∀ call, OutputsCleared call (run call)

/-- Calls of the adapters are atomic, for arrays of any length, any engine and any supply of
memory.  A submission reaches the engine at most once, and exactly when its output, the engine, the
array and every entry are valid and the decoded array could be allocated; the engine then gets the
decoded entries in order, and one invalid entry rejects the whole array.  Where the output, the
engine and the array are valid but nothing could be allocated, the result is NO_MEMORY.  A query
that fails writes nothing, and one that succeeds fills every entry.  Whatever fails leaves its
outputs cleared. -/
theorem adapter_calls_atomic (allocates : Nat → Bool) (cpp : Cpp.Engine) (rust : Rust.Engine) :
    AtomicAdapter Cpp.decodeRequest allocates (Cpp.encodedStatus cpp) (Cpp.run allocates cpp) ∧
    AtomicAdapter (fun request => (Rust.decodeRequest request).toOption) allocates
      (Rust.encodedStatus rust) (Rust.run allocates rust) where
  left :=
    { submit := fun engine requests entries count batch =>
        (Cpp.submitTransfer_course allocates cpp engine requests entries count batch).atomic
      query := Cpp.getTransferStatuses_atomic allocates cpp
      outputs := Cpp.run_cleared allocates cpp }
  right :=
    { submit := fun engine requests entries count batch =>
        (Rust.submitTransfer_course allocates rust engine requests entries count batch).atomic
      query := Rust.getTransferStatuses_atomic allocates rust
      outputs := Rust.run_cleared allocates rust }

/-- Without memory, a valid array does not reach the engine. -/
theorem unallocated_array_not_submitted :
    ¬((Cpp.run (fun _ => false) sampleCppEngine
        (.submitTransfer 1 64 sampleEntries 1 32)).calls ≠ [] ↔
      (32 : UInt64) ≠ 0 ∧ (1 : UInt64) ≠ 0 ∧ Cpp.validArray 56 8 64 1 = true ∧
        ∀ index < 1, (Cpp.decodeRequest (sampleEntries index)).isSome = true) := by
  have notCalled : (Cpp.run (fun _ => false) sampleCppEngine
      (.submitTransfer 1 64 sampleEntries 1 32)).calls = [] := by decide
  have valid : (32 : UInt64) ≠ 0 ∧ (1 : UInt64) ≠ 0 ∧ Cpp.validArray 56 8 64 1 = true ∧
      ∀ index < 1, (Cpp.decodeRequest (sampleEntries index)).isSome = true := by decide
  exact fun same => same.mpr valid notCalled

end Rdma101.Abi
