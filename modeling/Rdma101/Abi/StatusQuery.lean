/-
Module: Rdma101.Abi.StatusQuery
Purpose: The status codec at the adapter: what a status query of a live batch returns for the
  entries that the C++ or the Rust engine encodes, and which arrays it rejects.
Trusted boundary: none
Main exports: NativeEngine.query, status_codec_round_trip
-/
import Rdma101.Abi.Mirror

namespace Rdma101.Abi

section

variable {Region : Type} {world : World Region} {batch : Int} {operations : List OperationType}

/-- A key of the table is a live handle of the C engine, with as many tasks. -/
theorem live_of_item (mirrors : Mirrors world)
    (held : NativeEngine.item world.native.batches batch = .ok operations) :
    ∃ live, world.engine = some live ∧ 0 ≤ batch ∧
      live.batches.get? batch.toNat = some (operations.map opcodes) := by
  unfold NativeEngine.item at held
  have same := mirrors.batches batch.toNat
  by_cases nonneg : 0 ≤ batch
  · rw [if_pos nonneg] at held
    cases found : world.native.batches.get? batch.toNat with
    | none =>
        rw [found] at held
        cases held
    | some remembered =>
        rw [found] at held same
        obtain rfl : remembered = operations := Except.ok.inj held
        cases present : world.engine with
        | none =>
            rw [World.live, present] at same
            cases same
        | some live =>
            rw [World.live, present] at same
            exact ⟨live, rfl, nonneg, same.symm⟩
  · rw [if_neg nonneg] at held
    cases held

/-- A key of the table is a 64-bit number. -/
theorem toHandle_of_live {live : CEngine Region} {tasks : List UInt32} (nonneg : 0 ≤ batch)
    (held : live.batches.get? batch.toNat = some tasks) :
    NativeEngine.toHandle batch = .ok batch.toNat := by
  have small := HandleTable.small_of_get?_eq_some held
  have fits : 0 ≤ batch ∧ batch < 2 ^ 64 := ⟨nonneg, by omega⟩
  simp only [NativeEngine.toHandle, toUInt64, if_pos fits]
  exact congrArg Except.ok (UInt64.toNat_ofNat_of_lt' small)

end

variable {Region : Type} [DecidableEq Region] (describes : Bytes → Option Region)

/-- A status query that the C engine answers with OK and these entries. -/
def NativeEngine.query (world : World Region) (batch : Int) (entries : List R101TransferStatus) :
    EStateM.Result Abrupt (World Region) (List TransferStatus) :=
  (NativeEngine.getTransferStatuses describes batch
    { code := R101.ok, statuses := entries }).run world

variable {describes} {world : World Region} {batch : Int} {operations : List OperationType}

/-- The query of a live batch decodes the entries by the operation types that are remembered. -/
theorem query_eq (mirrors : Mirrors world)
    (held : NativeEngine.item world.native.batches batch = .ok operations)
    {entries : List R101TransferStatus} (filled : entries.length = operations.length) :
    NativeEngine.query describes world batch entries =
      (NativeEngine.raising (decodeStatuses entries operations)).run world := by
  obtain ⟨live, present, nonneg, tasks⟩ := live_of_item mirrors held
  have isOpen : world.native.closed = false := by rw [mirrors.closed, present]; rfl
  have accepted : CEngine.accept describes (some live)
      (.getTransferStatuses batch.toNat operations.length)
      { code := R101.ok, statuses := entries } = some (some live) := by
    simp [CEngine.accept, CEngine.succeed, tasks, filled]
  have unchanged : ({ world with engine := some live } : World Region) = world := by rw [← present]
  have checked : check "get_transfer_statuses" R101.ok = .ok () := rfl
  simp [NativeEngine.query, NativeEngine.getTransferStatuses, held, toHandle_of_live nonneg tasks,
    NativeEngine.call, isOpen, present, accepted, checked, NativeEngine.raising, unchanged]

theorem query_ok (mirrors : Mirrors world)
    (held : NativeEngine.item world.native.batches batch = .ok operations)
    {entries : List R101TransferStatus} (filled : entries.length = operations.length)
    {results : List TransferStatus} (decoded : decodeStatuses entries operations = .ok results) :
    NativeEngine.query describes world batch entries = .ok results world := by
  rw [query_eq mirrors held filled, decoded]
  rfl

/-- Statuses whose errors are errors have a Python counterpart. -/
theorem exists_toPython {ε : Type} {errorCode? : ε → Option ErrorCode}
    {statuses : List (Native.TransferStatus ε)}
    (errors : ∀ error, .failed error ∈ statuses → (errorCode? error).isSome) :
    ∃ results, statuses.mapM (Native.TransferStatus.toPython? errorCode?) = some results := by
  induction statuses with
  | nil => exact ⟨[], rfl⟩
  | cons status rest inductionHypothesis =>
      obtain ⟨results, sameRest⟩ :=
        inductionHypothesis fun error member => errors error (.tail status member)
      have head : ∃ result, status.toPython? errorCode? = some result := by
        cases status with
        | pending => exact ⟨_, rfl⟩
        | completed receive => exact ⟨_, rfl⟩
        | failed error =>
            obtain ⟨code, named⟩ := Option.isSome_iff_exists.mp (errors error (.head rest))
            exact ⟨.failed code, by rw [Native.TransferStatus.toPython?, named, Option.map_some]⟩
      obtain ⟨result, sameHead⟩ := head
      exact ⟨result :: results, by rw [List.mapM_cons, sameHead, sameRest]; rfl⟩

/-- The status codec, for a batch that the adapter holds in any reachable state.  The statuses of
the C++ and of the Rust engine come back as they were, in submission order; receive blocks that are
not defined do not matter; and an array with one inconsistent entry is rejected as a whole. -/
theorem status_codec_round_trip
    (reached : (nativeSystem describes).Reachable (fun _ _ => True) world)
    (held : NativeEngine.item world.native.batches batch = .ok operations) :
    (∀ statuses : List (Native.TransferStatus Cpp.ResultCode),
      List.Forall₂ (fun status operation => status.Answers operation) statuses operations →
      (∀ error, .failed error ∈ statuses → error ≠ .ok) →
      ∃ entries results, statuses.mapM Cpp.encodeStatus = some entries ∧
        NativeEngine.query describes world batch entries = .ok results world ∧
        statuses.mapM (Native.TransferStatus.toPython? Cpp.ResultCode.errorCode?) =
          some results) ∧
    (∀ statuses : List (Native.TransferStatus Rust.Error),
      List.Forall₂ (fun status operation => status.Answers operation) statuses operations →
      ∃ results,
        NativeEngine.query describes world batch (statuses.map Rust.encodeStatus) =
          .ok results world ∧
        statuses.mapM (Native.TransferStatus.toPython? fun error => some error.errorCode) =
          some results) ∧
    (∀ first second : List R101TransferStatus,
      first.length = operations.length → second.length = operations.length →
      (∀ (position : Nat) operation entry entry', operations[position]? = some operation →
        first[position]? = some entry → second[position]? = some entry' →
        SameStatus operation entry entry') →
      NativeEngine.query describes world batch first =
        NativeEngine.query describes world batch second) ∧
    ∀ entries : List R101TransferStatus, entries.length = operations.length →
      ∀ (position : Nat) operation entry, operations[position]? = some operation →
        entries[position]? = some entry → Inconsistent operation entry →
        ∃ error, NativeEngine.query describes world batch entries =
          .error (.raised error) world := by
  have mirrors := mirrors_of_reachable reached
  refine ⟨?_, ?_, ?_, ?_⟩
  · intro statuses answers errors
    have named : ∀ error, .failed error ∈ statuses → error.errorCode?.isSome := by
      intro error member
      have notOk := errors error member
      cases error <;> first | rfl | exact absurd rfl notOk
    obtain ⟨results, same⟩ := exists_toPython named
    obtain ⟨entries, encoded, filled, decoded⟩ := decodeFrom_encoded
      (fun index _ _ _ answer same => Cpp.decode_encodeStatus index answer same) answers same 0
    exact ⟨entries, results, encoded, query_ok mirrors held filled decoded, same⟩
  · intro statuses answers
    have named : ∀ error : Rust.Error, .failed error ∈ statuses →
        (some error.errorCode).isSome := fun _ _ => rfl
    obtain ⟨results, same⟩ := exists_toPython named
    obtain ⟨entries, encoded, filled, decoded⟩ := decodeFrom_encoded
      (fun index operation status result answer same =>
        ⟨Rust.encodeStatus status, rfl, Rust.decode_encodeStatus index answer same⟩)
      answers same 0
    have total : statuses.mapM (fun status => some (Rust.encodeStatus status)) =
        some (statuses.map Rust.encodeStatus) := List.mapM_pure
    obtain rfl : statuses.map Rust.encodeStatus = entries :=
      Option.some.inj (total.symm.trans encoded)
    exact ⟨results, query_ok mirrors held filled decoded, same⟩
  · intro first second filled filled' same
    have sameResult := decodeFrom_congr (filled.trans filled'.symm) same 0
    rw [query_eq mirrors held filled, query_eq mirrors held filled', decodeStatuses, sameResult,
      decodeStatuses]
  · intro entries filled position operation entry inOperations inEntries inconsistent
    obtain ⟨error, rejected⟩ := decodeFrom_rejects inEntries inOperations inconsistent 0
    refine ⟨error, ?_⟩
    rw [query_eq mirrors held filled, decodeStatuses, rejected]
    rfl

/-- The batch of the sample run: a message came in and the write failed; and an array in which
the write has an error without having failed. -/
theorem status_codec_round_trip_run : ∃ world : World Bytes,
    (∃ entries results,
      [(.completed (some (.message 31)) : Native.TransferStatus Cpp.ResultCode),
        .failed .ioError].mapM Cpp.encodeStatus = some entries ∧
      NativeEngine.query some world 10 entries = .ok results world ∧
      [(.completed (some (.message 31)) : Native.TransferStatus Cpp.ResultCode),
        .failed .ioError].mapM (Native.TransferStatus.toPython? Cpp.ResultCode.errorCode?) =
          some results) ∧
    ∃ error, NativeEngine.query some world 10 [.zero, ⟨R101.pending, R101.ioError, ⟨0, 0, 0⟩⟩] =
      .error (.raised error) world := by
  have computed : ∃ world, (nativeSystem some).Reachable (fun _ _ => True) world ∧
      world.native.batches.get? 10 = some [.recv, .write] :=
    LabelledSystem.exists_reachable (.initial rfl) sampleRun (by decide)
  obtain ⟨world, reached, remembered⟩ := computed
  have held : NativeEngine.item world.native.batches 10 = .ok [.recv, .write] := by
    simp [NativeEngine.item, remembered]
  have holds := status_codec_round_trip reached held
  refine ⟨world, holds.1 _ (.cons ?_ (.cons trivial .nil)) ?_, ?_⟩
  · simp [Native.TransferStatus.Answers, ReceiveAnswers]
  · simp
  · exact holds.2.2.2 _ rfl 1 .write _ rfl rfl (.error (by decide) (by decide))

end Rdma101.Abi
