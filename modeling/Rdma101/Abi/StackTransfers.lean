/-
Module: Rdma101.Abi.StackTransfers
Purpose: Transfers through the whole stack: the engine gets the requests that Python has submitted,
  and Python gets the statuses that the engine gives.
Trusted boundary: none
Main exports: adapter_stack_transfers
-/
import Rdma101.Abi.Double
import Rdma101.Abi.Stack
import Rdma101.Abi.StatusQuery

namespace Rdma101.Abi

section Returned

variable {Region : Type} [DecidableEq Region] {describes : Bytes → Option Region} {answer : Answer}
  {world after : World Region} {α : Type}

/-- A method that returned has had a call that succeeded. -/
theorem returned_call {name : String} {function : CCall} {next : Unit → Native Region α} {value : α}
    (run : (NativeEngine.call describes name function answer >>= next).run world =
      .ok value after) :
    answer.code = R101.ok ∧ ∃ middle, (next ()).run middle = .ok value after := by
  cases accepted : CEngine.accept describes (if world.native.closed then none else world.engine)
    function answer with
  | none => simp [NativeEngine.call, accepted] at run
  | some engine =>
      have called := Settles.run_call name accepted
      by_cases isOk : answer.code = R101.ok
      · rw [isOk, Settles.check_ok] at called
        rw [EStateM.run_bind, called] at run
        exact ⟨isOk, _, run⟩
      · obtain ⟨error, raised⟩ := Settles.check_raises name isOk
        rw [raised] at called
        simp [called, NativeEngine.raising] at run

theorem returned_submitTransfer {requests : List Request} {handle : Handle}
    (run : (NativeEngine.submitTransfer describes requests answer).run world = .ok handle after) :
    answer.code = R101.ok ∧ handle = answer.handle := by
  unfold NativeEngine.submitTransfer at run
  obtain ⟨entries, -, run⟩ := returned_raising run
  obtain ⟨isOk, middle, run⟩ := returned_call run
  refine ⟨isOk, ?_⟩
  rw [EStateM.run_bind, EStateM.run_get] at run
  simp only at run
  split at run
  · cases run
  · cases run
    rfl

theorem returned_getTransferStatuses {batch : Int} {results : List TransferStatus}
    (run : (NativeEngine.getTransferStatuses describes batch answer).run world =
      .ok results after) :
    answer.code = R101.ok ∧
      ∃ operations, NativeEngine.item world.native.batches batch = .ok operations ∧
        decodeStatuses answer.statuses operations = .ok results := by
  rw [NativeEngine.getTransferStatuses, EStateM.run_bind, EStateM.run_get] at run
  obtain ⟨operations, held, run⟩ := returned_raising run
  obtain ⟨handle, -, run⟩ := returned_raising run
  obtain ⟨isOk, middle, run⟩ := returned_call run
  refine ⟨isOk, operations, held, ?_⟩
  cases decoded : decodeStatuses answer.statuses operations with
  | error error =>
      rw [decoded] at run
      cases run
  | ok decodedResults =>
      rw [decoded] at run
      cases run
      rfl

end Returned

theorem get?_of_item {ν : Type} {dict : OrderedDict Handle ν} {key : Int} {value : ν}
    (found : NativeEngine.item dict key = .ok value) : dict.get? key.toNat = some value := by
  unfold NativeEngine.item at found
  split at found
  · rename_i there
    obtain rfl := Except.ok.inj found
    split at there
    · exact there
    · cases there
  · cases found

/-! ### Arrays -/

/-- A decoded array has been decoded entry by entry. -/
theorem decodeFrom_pointwise {entries : List R101TransferStatus} {operations : List OperationType}
    {results : List TransferStatus} {first : Nat} (same : entries.length = operations.length)
    (decoded : decodeFrom first entries operations = .ok results) :
    results.length = entries.length ∧
      ∀ (index : Nat) entry operation, entries[index]? = some entry →
        operations[index]? = some operation →
        ∃ result, results[index]? = some result ∧
          decodeStatus (first + index) entry operation = .ok result := by
  induction entries generalizing operations results first with
  | nil =>
      obtain rfl : [] = results := Except.ok.inj decoded
      refine ⟨rfl, fun index entry operation here => ?_⟩
      cases here
  | cons entry entries inductionHypothesis =>
      cases operations with
      | nil => cases same
      | cons operation operations =>
          rw [decodeFrom] at decoded
          obtain ⟨head, decodedHead, decoded⟩ := exists_of_bind_eq_ok decoded
          obtain ⟨tail, decodedTail, decoded⟩ := exists_of_bind_eq_ok decoded
          obtain rfl : head :: tail = results := Except.ok.inj decoded
          obtain ⟨length, pointwise⟩ := inductionHypothesis (Nat.succ.inj same) decodedTail
          refine ⟨congrArg Nat.succ length, ?_⟩
          intro index entry' operation' here type
          cases index with
          | zero =>
              obtain rfl : entry = entry' := Option.some.inj here
              obtain rfl : operation = operation' := Option.some.inj type
              exact ⟨head, rfl, decodedHead⟩
          | succ index =>
              obtain ⟨result, there, decodedEntry⟩ := pointwise index entry' operation' here type
              refine ⟨result, there, ?_⟩
              rw [Nat.add_comm index 1, ← Nat.add_assoc]
              exact decodedEntry

/-- The entries that Python reads are the ones that were written. -/
theorem answer_statuses {frame : Frame} {batch : Handle} {count : Nat} {answer : Answer}
    {values : List R101TransferStatus} {call : EngineCall} (length : values.length = count)
    (answered : frame.answer (.getTransferStatuses batch count) ⟨some R101.ok,
      values.zipIdx.map fun (value, index) => .status frame.array index value, [call]⟩ =
        some answer) : answer.statuses = values := by
  obtain rfl := Option.some.inj answered
  exact filled_all frame.array (by rw [List.length_replicate, CCall.statusCount, length])

/-! ### Through the stack

Arguments go down by the codec of requests and come up by the codec of statuses.  That both ends
are in step in every reachable state is known; here it is used for the one call that the method
made. -/

section Serving

variable {Region : Type} [DecidableEq Region] {describes : Bytes → Option Region}
  {language : Language} {state : Stack Region} {turn : Turn language} {answer : Answer}
  {objects : Option (EngineObjects Region)}

/-- A call that Python has read back as a success: the engine has done its operation. -/
theorem Stack.Sound.succeeded (sound : state.Sound) {function : CCall}
    (calls : turn.operation.function state.world.native = some function)
    (notDestroy : function ≠ .destroyEngine)
    (reads : state.reads describes turn = some (answer, objects))
    (isOk : answer.code = R101.ok) :
    ∃ held call reply writes, state.objects = some held ∧
      state.outcome turn function = ⟨some R101.ok, writes, [call]⟩ ∧
      turn.frame.answer function ⟨some R101.ok, writes, [call]⟩ = some answer ∧
      function.Passes turn.frame ∧ function.Decodes turn.frame call ∧
      language.replies turn.engine call = some reply ∧ reply.error = none ∧
      function.Committed turn.frame reply writes ∧
      held.succeed describes turn.frame.reads reply call = some objects := by
  obtain ⟨engine, accepted, -⟩ := sound.accepted calls reads
  obtain ⟨shown, present, -⟩ := Settles.accept_ok isOk accepted
  have opened : state.world.native.closed = false := by
    rw [sound.mirrors.closed, present]
    rfl
  have shows := sound.shows
  rw [present] at shows
  simp only [Stack.reads, calls, Option.bind_eq_bind, Option.bind_eq_some_iff,
    Option.guard_eq_some', Option.pure_def, Option.some.injEq, Prod.mk.injEq] at reads
  obtain ⟨_, passes, answer, answered, objects, after, rfl, rfl⟩ := reads
  cases held : state.objects with
  | none =>
      rw [held] at shows
      cases shows
  | some objects' =>
      rw [held] at after
      simp only [Stack.outcome, opened, Bool.not_false] at answered after ⊢
      have course := language.course turn.allocates turn.engine passes
      revert answered after course
      generalize language.run turn.allocates turn.engine (function.marshal turn.frame true) =
        outcome
      intro answered after course
      cases course with
      | refused failed =>
          obtain rfl := Option.some.inj answered
          exact absurd isOk failed
      | aborted gone =>
          rw [Frame.answer, gone] at answered
          cases answered
      | failed decodes replied raised notDestroyed notOk =>
          obtain rfl := Option.some.inj answered
          exact absurd isOk notOk
      | @succeeded writes call reply decodes replied noError committed =>
          refine ⟨objects', call, reply, writes, rfl, rfl, answered, passes, decodes, replied, ?_,
            committed, ?_⟩
          · exact noError.resolve_left notDestroy
          · rw [← EngineObjects.afterCalls_succeeded decodes replied noError]
            exact after

/-- The engine holds what Python has submitted. -/
theorem Stack.Sound.submitted (sound : state.Sound) {requests : List Request} {handle : Handle}
    {after : World Region} (operation : turn.operation = .submitTransfer requests)
    (fits : ∀ request ∈ requests, request.Fits)
    (reads : state.reads describes turn = some (answer, objects))
    (run : (NativeEngine.submitTransfer describes requests answer).run state.world =
      .ok handle after) :
    ∃ held natives function, objects = some held ∧ held.batches.get? handle = some natives ∧
      natives.map Native.Request.toPython = requests ∧
      turn.operation.function state.world.native = some function ∧
      (state.outcome turn function).calls = [.submitTransfer turn.frame.engine natives] := by
  obtain ⟨natives, rfl⟩ := exists_natives fits
  have encoded : (natives.map Native.Request.toPython).mapM encodeRequest =
      .ok (natives.map Native.Request.descriptor) :=
    mapM_map_eq_pure encodeRequest_toPython natives
  have calls : turn.operation.function state.world.native =
      some (.submitTransfer (natives.map Native.Request.descriptor)) := by
    rw [operation, NativeOperation.function, encoded]
    rfl
  obtain ⟨isOk, rfl⟩ := returned_submitTransfer run
  obtain ⟨held, call, reply, writes, -, outcome, answered, -, decodes, -, -, committed,
    succeeded⟩ := sound.succeeded calls (fun same => by cases same) reads isOk
  cases decodes with
  | @submitTransfer entries natives' nonempty decoded =>
      have own : (natives.map Native.Request.descriptor).mapM Cpp.decodeRequest =
          some (natives.map id) := mapM_map_eq_pure Cpp.decodeRequest_descriptor natives
      rw [own, List.map_id] at decoded
      obtain rfl := Option.some.inj decoded
      subst committed
      obtain ⟨-, sameHandle⟩ := answer_handle answered
      simp only [EngineObjects.succeed, Option.bind_eq_bind, Option.bind_eq_some_iff,
        Option.guard_eq_some', Option.dite_none_right_eq_some, Option.pure_def,
        Option.some.injEq] at succeeded
      obtain ⟨_, -, fresh, rfl⟩ := succeeded
      refine ⟨_, natives, _, rfl, ?_, rfl, calls, by rw [outcome]⟩
      rw [sameHandle]
      simp

/-- Python gets the statuses of the engine. -/
theorem Stack.Sound.queried (sound : state.Sound) {batch : Int} {results : List TransferStatus}
    {after : World Region} (operation : turn.operation = .getTransferStatuses batch)
    (reads : state.reads describes turn = some (answer, objects))
    (run : (NativeEngine.getTransferStatuses describes batch answer).run state.world =
      .ok results after) :
    ∃ held natives reply, state.objects = some held ∧
      held.batches.get? batch.toNat = some natives ∧
      (state.outcome turn (.getTransferStatuses batch.toNat natives.length)).calls =
        [.getTransferStatuses turn.frame.engine (.ofNat batch.toNat) natives.length] ∧
      language.replies turn.engine (.getTransferStatuses turn.frame.engine
        (.ofNat batch.toNat) natives.length) = some reply ∧
      results.length = natives.length ∧
      ∀ (index : Nat) native status, natives[index]? = some native →
        reply.statuses index = some status → status.Answers native.type →
        results[index]? = some status := by
  obtain ⟨isOk, operations, remembered, decoded⟩ := returned_getTransferStatuses run
  obtain ⟨live, present, nonneg, tasks⟩ := live_of_item sound.mirrors remembered
  have calls : turn.operation.function state.world.native =
      some (.getTransferStatuses batch.toNat operations.length) := by
    rw [operation, NativeOperation.function, remembered, toHandle_of_live nonneg tasks]
    rfl
  obtain ⟨held, call, reply, writes, isHeld, outcome, answered, -, decodes, replied, -, committed,
    -⟩ := sound.succeeded calls (fun same => by cases same) reads isOk
  have types := sound.tables.batches batch.toNat
  rw [get?_of_item remembered, isHeld, Option.getD_some] at types
  obtain ⟨natives, isBatch, rfl⟩ := Option.map_eq_some_iff.mp types.symm
  cases decodes
  obtain ⟨values, length, rfl, decodesTo⟩ := committed
  rw [answer_statuses length answered] at decoded
  obtain ⟨sameLength, pointwise⟩ := decodeFrom_pointwise length decoded
  rw [List.length_map] at replied length outcome
  refine ⟨held, natives, reply, isHeld, isBatch, by rw [outcome], replied,
    sameLength.trans length, ?_⟩
  intro index native status there given answers
  have below : index < values.length := by
    rw [length]
    exact (List.getElem?_eq_some_iff.mp there).1
  have type : (natives.map Native.Request.type)[index]? = some native.type := by
    rw [List.getElem?_map, there, Option.map_some]
  have here := List.getElem?_eq_getElem below
  obtain ⟨result, isResult, decodedEntry⟩ := pointwise index _ _ here type
  have expected := decodesTo index _ here status native.type given answers
  rw [Nat.zero_add] at decodedEntry
  rw [isResult, ← Except.ok.inj (decodedEntry.symm.trans expected)]

/-- Transfers go through the stack unchanged.  In every state of every run over an engine that
keeps its contract: when `submit_transfer` returns, the engine was called once, with the requests
that Python has given, in their order, and it holds them under that handle; and when
`get_transfer_statuses` returns, the engine was called once, about the batch that it holds, and
every status is the one that it gave for that task. -/
theorem adapter_stack_transfers
    (reached : (stackSystem describes language).Reachable (fun _ _ => True) state)
    (reads : state.reads describes turn = some (answer, objects)) :
    (∀ requests handle after, turn.operation = .submitTransfer requests →
      (∀ request ∈ requests, request.Fits) →
      (NativeEngine.submitTransfer describes requests answer).run state.world = .ok handle after →
      ∃ held natives function, objects = some held ∧ held.batches.get? handle = some natives ∧
        natives.map Native.Request.toPython = requests ∧
        turn.operation.function state.world.native = some function ∧
        (state.outcome turn function).calls = [.submitTransfer turn.frame.engine natives]) ∧
    ∀ batch results after, turn.operation = .getTransferStatuses batch →
      (NativeEngine.getTransferStatuses describes batch answer).run state.world =
        .ok results after →
      ∃ held natives reply, state.objects = some held ∧
        held.batches.get? batch.toNat = some natives ∧
        (state.outcome turn (.getTransferStatuses batch.toNat natives.length)).calls =
          [.getTransferStatuses turn.frame.engine (.ofNat batch.toNat) natives.length] ∧
        language.replies turn.engine (.getTransferStatuses turn.frame.engine
          (.ofNat batch.toNat) natives.length) = some reply ∧
        results.length = natives.length ∧
        ∀ (index : Nat) native status, natives[index]? = some native →
          reply.statuses index = some status → status.Answers native.type →
          results[index]? = some status := by
  have sound := sound_of_reachable reached
  refine ⟨fun requests handle after operation fits run => ?_,
    fun batch results after operation run => ?_⟩
  · exact sound.submitted operation fits reads run
  · exact sound.queried operation reads run

end Serving

/-- The value that a method returns. -/
def returnedValue {Region α : Type} (method : Native Region α) (world : World Region) : Option α :=
  match method.run world with
  | .ok value _ => some value
  | .error _ _ => none

theorem exists_returned {Region α : Type} {method : Native Region α} {world : World Region}
    {value : α} (returned : returnedValue method world = some value) :
    ∃ after, method.run world = .ok value after := by
  unfold returnedValue at returned
  split at returned
  · rename_i value' after run
    obtain rfl := Option.some.inj returned
    exact ⟨after, run⟩
  · cases returned

def sampleRequests : List Request := [⟨7, 0x1000, 8, .recv⟩, ⟨7, 0x1000, 8, .write 0x2000⟩]

/-- A query of the sample batch, where a message has come in and the write has failed. -/
def sampleQuery : Turn .rust where
  operation := .getTransferStatuses 10
  frame := sampleFrame
  allocates _ := true
  engine _ := some
    { result := .ok ⟨0, ⟨0, 0⟩⟩
      statuses := fun index =>
        if index = 0 then .completed (some (.message 31)) else .failed .io }

/-- The batch of the sample run is submitted, and it is queried: its statuses are the ones that the
engine of the query gives. -/
theorem adapter_stack_transfers_run :
    (∃ (held : EngineObjects Bytes) (natives : List Native.Request),
      held.batches.get? 10 = some natives ∧
      natives.map Native.Request.toPython = sampleRequests) ∧
    ∃ (natives : List Native.Request) (reply : EngineReply), natives.length = 2 ∧
      Rust.replies sampleQuery.engine (.getTransferStatuses 0x8000 10 natives.length) =
        some reply ∧
      ∀ (index : Nat) native status, natives[index]? = some native →
        reply.statuses index = some status → status.Answers native.type →
        [TransferStatus.completed (some (.message 31)), .failed .ioError][index]? =
          some status := by
  have submission : ∃ state, (stackSystem some .rust).Reachable (fun _ _ => True) state ∧
      ∃ read ∈ state.reads some (sampleTurn (.submitTransfer sampleRequests) 10),
        returnedValue (NativeEngine.submitTransfer some sampleRequests read.1) state.world =
          some 10 :=
    LabelledSystem.exists_reachable (.initial rfl) (sampleTurns.take 4) (by decide +kernel)
  have query : ∃ state, (stackSystem some .rust).Reachable (fun _ _ => True) state ∧
      ∃ read ∈ state.reads some sampleQuery,
        returnedValue (NativeEngine.getTransferStatuses some 10 read.1) state.world =
          some [.completed (some (.message 31)), .failed .ioError] :=
    LabelledSystem.exists_reachable (.initial rfl) sampleTurns (by decide +kernel)
  constructor
  · obtain ⟨state, reached, ⟨answer, objects⟩, reads, returned⟩ := submission
    obtain ⟨after, run⟩ := exists_returned returned
    have fits : ∀ request ∈ sampleRequests, request.Fits := by
      intro request member
      simp only [sampleRequests, List.mem_cons, List.not_mem_nil, or_false] at member
      rcases member with rfl | rfl
      · exact ⟨by decide, by decide, by decide, trivial⟩
      · exact ⟨by decide, by decide, by decide, by simp [Operation.Fits]⟩
    obtain ⟨held, natives, function, -, isBatch, same, -⟩ :=
      (adapter_stack_transfers reached reads).1 sampleRequests 10 after rfl fits run
    exact ⟨held, natives, isBatch, same⟩
  · obtain ⟨state, reached, ⟨answer, objects⟩, reads, returned⟩ := query
    obtain ⟨after, run⟩ := exists_returned returned
    obtain ⟨held, natives, reply, -, -, -, replied, sameLength, statuses⟩ :=
      (adapter_stack_transfers reached reads).2 10 _ after rfl run
    exact ⟨natives, reply, sameLength.symm, replied, statuses⟩

end Rdma101.Abi
