/-
Module: Rdma101.Abi.Served
Purpose: The C++ and the Rust adapter carry the contract of the engine over to the C API: a call of
  the Python adapter reaches the engine with the arguments that were passed, and whatever the engine
  may answer, the caller reads what the header allows.
Trusted boundary: none
Main exports: CCall.Decodes, CCall.Committed, Course, Cpp.course, Rust.course, Represents,
  Course.served
-/
import Rdma101.Abi.EngineObjects

namespace Rdma101.Abi

/-! ### The ways through a function

Every function either returns before it calls the engine, or aborts, or has called the engine
once and returns its error, or returns success with what it commits.  `Course` lists these ways,
so that what the caller may conclude is proved for a course, once for both languages. -/

/-- A status with this content can be one of a task with this operation. -/
def TransferStatus.Answers (operation : OperationType) : TransferStatus → Prop
  | .completed receive => receive.isSome ↔ operation = .recv
  | .pending | .failed _ => True

/-- The operation of the engine that a call of the C API asks for. -/
inductive CCall.Decodes (frame : Frame) : CCall → EngineCall → Prop where
  | registerLocalMemory (memory : Memory) (access flags : UInt32) :
      Decodes frame (.registerLocalMemory memory access)
        (.registerLocalMemory frame.engine (castPointer memory.address) (.ofNat memory.size) flags)
  | deregisterLocalMemory (memory : Handle) :
      Decodes frame (.deregisterLocalMemory memory)
        (.deregisterLocalMemory frame.engine (.ofNat memory))
  | importRemoteMemory (peer : Handle) (metadata : Bytes) :
      Decodes frame (.importRemoteMemory peer metadata)
        (.importRemoteMemory frame.engine (.ofNat peer) ⟨frame.input, .ofNat metadata.length⟩)
  | removeRemoteMemory (remoteMemory : Handle) :
      Decodes frame (.removeRemoteMemory remoteMemory)
        (.removeRemoteMemory frame.engine (.ofNat remoteMemory))
  | createPeer : Decodes frame .createPeer (.createPeer frame.engine)
  | connectPeer (peer : Handle) (metadata : Bytes) :
      Decodes frame (.connectPeer peer metadata)
        (.connectPeer frame.engine (.ofNat peer) ⟨frame.input, .ofNat metadata.length⟩)
  | destroyPeer (peer : Handle) :
      Decodes frame (.destroyPeer peer) (.destroyPeer frame.engine (.ofNat peer))
  | submitTransfer {requests : List R101Request} {natives : List Native.Request}
      (nonempty : requests ≠ []) (decoded : requests.mapM Cpp.decodeRequest = some natives) :
      Decodes frame (.submitTransfer requests) (.submitTransfer frame.engine natives)
  | getTransferStatuses (batch count : Nat) :
      Decodes frame (.getTransferStatuses batch count)
        (.getTransferStatuses frame.engine (.ofNat batch) count)
  | freeBatch (batch : Handle) :
      Decodes frame (.freeBatch batch) (.freeBatch frame.engine (.ofNat batch))
  | destroyEngine : Decodes frame .destroyEngine (.destroy frame.engine)

/-- What a function writes when the engine has succeeded. -/
def CCall.Committed (frame : Frame) (reply : EngineReply) (writes : List Write) : CCall → Prop
  | .registerLocalMemory _ _ | .createPeer =>
      writes = clear [frame.first, frame.second, frame.third] ++
        commitMetadata frame.first frame.second frame.third reply.handle reply.metadata
  | .importRemoteMemory _ _ | .submitTransfer _ =>
      writes = clear [frame.first] ++ commitHandle frame.first reply.handle reply.metadata
  | .getTransferStatuses _ count =>
      ∃ values : List R101TransferStatus, values.length = count ∧
        writes = values.zipIdx.map (fun (value, index) => .status frame.array index value) ∧
        ∀ (index : Nat) value, values[index]? = some value → ∀ result operation,
          reply.statuses index = some result → result.Answers operation →
          decodeStatus index value operation = .ok result
  | .deregisterLocalMemory _ | .removeRemoteMemory _ | .connectPeer _ _ | .destroyPeer _
  | .freeBatch _ | .destroyEngine => True

/-- The ways through a function, for the replies that the engine would give. -/
inductive Course (replies : EngineCall → Option EngineReply) (frame : Frame) (function : CCall) :
    Outcome → Prop where
  | refused {code : Int32} {writes : List Write} (failed : code ≠ R101.ok) :
      Course replies frame function (.early code writes)
  | aborted {outcome : Outcome} (gone : outcome.result = none) :
      Course replies frame function outcome
  | failed {code : Int32} {writes : List Write} {call : EngineCall} {reply : EngineReply}
      {error : ErrorCode} (decodes : function.Decodes frame call)
      (replied : replies call = some reply) (raised : reply.error = some error)
      (notDestroy : function ≠ .destroyEngine) (notOk : code ≠ R101.ok) :
      Course replies frame function ⟨some code, writes, [call]⟩
  | succeeded {writes : List Write} {call : EngineCall} {reply : EngineReply}
      (decodes : function.Decodes frame call) (replied : replies call = some reply)
      (noError : function = .destroyEngine ∨ reply.error = none)
      (committed : function.Committed frame reply writes) :
      Course replies frame function ⟨some R101.ok, writes, [call]⟩

/-- What the C++ engine would reply. -/
def Cpp.replies (native : Cpp.Engine) (call : EngineCall) : Option EngineReply :=
  (native call).map Cpp.Reply.meaning

def Rust.replies (native : Rust.Engine) (call : EngineCall) : Option EngineReply :=
  (native call).map Rust.Reply.meaning

section Enter

variable {frame : Frame} {function : CCall} {call : EngineCall} {cleared : List Write}
  {commit : UInt64 → Span → List Write}

theorem Cpp.errorCode?_eq_none {code : Cpp.ResultCode} : code.errorCode? = none ↔ code = .ok := by
  cases code <;> simp [Cpp.ResultCode.errorCode?]

/-- Behind its checks a function of C++ calls the engine, and commits when it has succeeded. -/
theorem Cpp.enter_course (native : Cpp.Engine) (decodes : function.Decodes frame call)
    (notDestroy : function ≠ .destroyEngine)
    (committed : ∀ reply : EngineReply,
      function.Committed frame reply (cleared ++ commit reply.handle reply.metadata)) :
    Course (Cpp.replies native) frame function (Cpp.enter native call cleared commit) := by
  unfold Cpp.enter
  cases replied : native call with
  | none => exact .aborted rfl
  | some reply =>
      have meaning : Cpp.replies native call = some reply.meaning := by
        rw [Cpp.replies, replied, Option.map_some]
      by_cases isOk : reply.result = .ok
      · have noError : reply.meaning.error = none := Cpp.errorCode?_eq_none.mpr isOk
        simp only [isOk, if_true]
        exact .succeeded decodes meaning (.inr noError) (committed reply.meaning)
      · simp only [isOk, if_false]
        cases raised : reply.meaning.error with
        | none => exact absurd (Cpp.errorCode?_eq_none.mp raised) isOk
        | some error =>
            exact .failed decodes meaning raised notDestroy fun same =>
              isOk (Cpp.encodeResult_eq_ok.mp same)

/-- So does the closure of a function of Rust. -/
theorem Rust.enter_course (native : Rust.Engine) (decodes : function.Decodes frame call)
    (notDestroy : function ≠ .destroyEngine)
    (committed : ∀ reply : EngineReply,
      function.Committed frame reply (cleared ++ commit reply.handle reply.metadata)) :
    Course (Rust.replies native) frame function
      (Rust.enter native (.ok call) cleared commit) := by
  simp only [Rust.enter]
  cases replied : native call with
  | none => exact .aborted rfl
  | some reply =>
      have meaning : Rust.replies native call = some reply.meaning := by
        rw [Rust.replies, replied, Option.map_some]
      cases result : reply.result with
      | error error =>
          have raised : reply.meaning.error = some error.errorCode := by
            simp only [Rust.Reply.meaning, result]
          simp only [result]
          exact .failed decodes meaning raised notDestroy (Rust.encodeError_ne_ok error)
      | ok value =>
          have noError : reply.meaning.error = none := by
            simp only [Rust.Reply.meaning, result]
          have handle : reply.meaning.handle = value.handle := by
            simp only [Rust.Reply.meaning, result]
          have metadata : reply.meaning.metadata = value.metadata := by
            simp only [Rust.Reply.meaning, result]
          simp only [result]
          refine .succeeded decodes meaning (.inr noError) ?_
          rw [← handle, ← metadata]
          exact committed reply.meaning

/-- A closure that is refused has not called the engine. -/
theorem Rust.enter_refused (native : Rust.Engine) (error : Rust.Error) :
    Course (Rust.replies native) frame function
      (Rust.enter native (.error error) cleared commit) :=
  .refused (Rust.encodeError_ne_ok error)

end Enter

/-! ### The C++ adapter

The functions are taken one after the other; submissions and queries have lemmas of their own,
since they read or write an array. -/

/-- The entries that the function reads are the ones of the array. -/
theorem contents_requests {requests : List R101Request} (small : requests.length < 2 ^ 64) :
    contents (fun index => requests[index]?.getD .zero) (UInt64.ofNat requests.length).toNat =
      requests := by
  rw [UInt64.toNat_ofNat_of_lt' small, contents]
  apply List.ext_getElem (by simp)
  intro index below below'
  simp [List.getElem?_eq_getElem below']

/-- A valid array of entries is not empty. -/
theorem requests_ne_nil {requests : List R101Request} {array : UInt64}
    (valid : Cpp.validArray 56 8 array (.ofNat requests.length) = true) : requests ≠ [] := by
  rintro rfl
  simp [Cpp.validArray] at valid

/-- A count that fits is asked of the engine as it is. -/
theorem CCall.Decodes.statuses (frame : Frame) (batch : Nat) {count : Nat}
    (small : count < 2 ^ 64) :
    (CCall.getTransferStatuses batch count).Decodes frame
      (.getTransferStatuses frame.engine (.ofNat batch) (UInt64.ofNat count).toNat) := by
  rw [UInt64.toNat_ofNat_of_lt' small]
  exact .getTransferStatuses batch count

/-- The values that the loop of C++ has written decode to the statuses of the engine. -/
theorem Cpp.committed_statuses {frame : Frame} {batch count : Nat} {reply : Cpp.Reply}
    {writes : List Write} (small : count < 2 ^ 64)
    (committed : Cpp.commitStatuses frame.array 0
      (contents reply.statuses (UInt64.ofNat count).toNat) = (some R101.ok, writes)) :
    (CCall.getTransferStatuses batch count).Committed frame reply.meaning writes := by
  rw [UInt64.toNat_ofNat_of_lt' small] at committed
  obtain ⟨values, same, written⟩ := commitStatuses_ok (congrArg Prod.fst committed)
  rw [committed] at written
  have length : values.length = count := by
    have lengths := congrArg List.length same
    simpa [contents] using lengths
  refine ⟨values, length, written, fun index value here result operation content answers => ?_⟩
  have below : index < count := by
    rw [← length]
    exact (List.getElem?_eq_some_iff.mp here).1
  have encoded : some value = Cpp.encodeStatus (reply.statuses index) := by
    have at_ := congrArg (fun list => list[index]?) same
    simp only [contents, List.getElem?_map, List.getElem?_range below, here, Option.map_some]
      at at_
    exact Option.some.inj at_
  have answers' : (reply.statuses index).Answers operation := by
    have content' : (reply.statuses index).toPython? Cpp.ResultCode.errorCode? = some result :=
      content
    cases same' : reply.statuses index with
    | pending | failed error => trivial
    | completed receive =>
        rw [same'] at content'
        obtain rfl := Option.some.inj content'
        simpa [TransferStatus.Answers, Native.TransferStatus.Answers, ReceiveAnswers] using answers
  obtain ⟨entry, encodes, decodes⟩ := Cpp.decode_encodeStatus index answers' content
  rw [← encoded] at encodes
  obtain rfl := Option.some.inj encodes
  exact decodes

/-- The array is decoded whole before the engine is called. -/
theorem Cpp.course_submitTransfer (allocates : Nat → Bool) (native : Cpp.Engine)
    {frame : Frame} {requests : List R101Request}
    (passes : (CCall.submitTransfer requests).Passes frame) :
    Course (Cpp.replies native) frame (.submitTransfer requests)
      (Cpp.run allocates native ((CCall.submitTransfer requests).marshal frame true)) := by
  obtain ⟨engine, first, -⟩ := frame.nonnull
  simp only [CCall.marshal, Cpp.run, Cpp.submitTransfer, first, engine, if_false, if_true,
    false_or, contents_requests passes]
  split
  · exact .refused (by decide)
  · rename_i valid
    split
    · exact .refused (by decide)
    · cases decoded : requests.mapM Cpp.decodeRequest with
      | none => exact .refused (by decide)
      | some natives =>
          have nonempty := requests_ne_nil (Bool.eq_true_of_not_eq_false valid)
          refine Cpp.enter_course native (.submitTransfer nonempty decoded) ?_ fun _ => rfl
          exact fun same => by cases same

/-- The entries are written only after the engine has answered for the whole batch. -/
theorem Cpp.course_getTransferStatuses (allocates : Nat → Bool) (native : Cpp.Engine)
    {frame : Frame} {batch count : Nat}
    (passes : (CCall.getTransferStatuses batch count).Passes frame) :
    Course (Cpp.replies native) frame (.getTransferStatuses batch count)
      (Cpp.run allocates native ((CCall.getTransferStatuses batch count).marshal frame true)) := by
  simp only [CCall.marshal, Cpp.run, Cpp.getTransferStatuses, if_true]
  split
  · exact .refused (by decide)
  · split
    · exact .refused (by decide)
    · have decodes := CCall.Decodes.statuses frame batch passes.2
      cases replied : native (.getTransferStatuses frame.engine (.ofNat batch)
        (UInt64.ofNat count).toNat) with
      | none => exact .aborted rfl
      | some reply =>
          have meaning : Cpp.replies native (.getTransferStatuses frame.engine (.ofNat batch)
              (UInt64.ofNat count).toNat) = some reply.meaning := by
            rw [Cpp.replies, replied, Option.map_some]
          by_cases isOk : reply.result = .ok
          · simp only [isOk, ne_eq, not_true_eq_false, if_false]
            have noError : reply.meaning.error = none := Cpp.errorCode?_eq_none.mpr isOk
            cases committed : Cpp.commitStatuses frame.array 0
              (contents reply.statuses (UInt64.ofNat count).toNat) with
            | mk result writes =>
                cases result with
                | none => exact .aborted rfl
                | some code =>
                    obtain rfl := commitStatuses_result (congrArg Prod.fst committed)
                    exact .succeeded decodes meaning (.inr noError)
                      (Cpp.committed_statuses passes.2 committed)
          · simp only [isOk, ne_eq, not_false_eq_true, if_true]
            cases raised : reply.meaning.error with
            | none => exact absurd (Cpp.errorCode?_eq_none.mp raised) isOk
            | some error =>
                refine .failed decodes meaning raised (fun same => by cases same) fun same =>
                  isOk (Cpp.encodeResult_eq_ok.mp same)

/-- Every function of the C++ adapter. -/
theorem Cpp.course (allocates : Nat → Bool) (native : Cpp.Engine) {frame : Frame}
    {function : CCall} (passes : function.Passes frame) :
    Course (Cpp.replies native) frame function
      (Cpp.run allocates native (function.marshal frame true)) := by
  obtain ⟨engine, first, second, third, array, input⟩ := frame.nonnull
  cases function with
  | registerLocalMemory memory access =>
      simp only [CCall.marshal, Cpp.run, Cpp.registerLocalMemory, first, second, third, or_self,
        if_false, if_true]
      split
      · exact .refused (by decide)
      · split
        · exact .refused (by decide)
        · refine Cpp.enter_course native (.registerLocalMemory memory access _) ?_ fun _ => rfl
          exact fun same => by cases same
  | deregisterLocalMemory memory =>
      simp only [CCall.marshal, Cpp.run, Cpp.deregisterLocalMemory, if_true]
      split
      · exact .refused (by decide)
      · refine Cpp.enter_course native (.deregisterLocalMemory memory) ?_ fun _ => trivial
        exact fun same => by cases same
  | importRemoteMemory peer metadata =>
      simp only [CCall.marshal, Cpp.run, Cpp.importRemoteMemory, first, if_false, if_true]
      split
      · exact .refused (by decide)
      · refine Cpp.enter_course native (.importRemoteMemory peer metadata) ?_ fun _ => rfl
        exact fun same => by cases same
  | removeRemoteMemory remoteMemory =>
      simp only [CCall.marshal, Cpp.run, Cpp.removeRemoteMemory, if_true]
      split
      · exact .refused (by decide)
      · refine Cpp.enter_course native (.removeRemoteMemory remoteMemory) ?_ fun _ => trivial
        exact fun same => by cases same
  | createPeer =>
      simp only [CCall.marshal, Cpp.run, Cpp.createPeer, first, second, third, engine, or_self,
        if_false, if_true]
      refine Cpp.enter_course native .createPeer ?_ fun _ => rfl
      exact fun same => by cases same
  | connectPeer peer metadata =>
      simp only [CCall.marshal, Cpp.run, Cpp.connectPeer, if_true]
      split
      · exact .refused (by decide)
      · refine Cpp.enter_course native (.connectPeer peer metadata) ?_ fun _ => trivial
        exact fun same => by cases same
  | destroyPeer peer =>
      simp only [CCall.marshal, Cpp.run, Cpp.destroyPeer, if_true]
      split
      · exact .refused (by decide)
      · refine Cpp.enter_course native (.destroyPeer peer) ?_ fun _ => trivial
        exact fun same => by cases same
  | submitTransfer requests => exact Cpp.course_submitTransfer allocates native passes
  | getTransferStatuses batch count => exact Cpp.course_getTransferStatuses allocates native passes
  | freeBatch batch =>
      simp only [CCall.marshal, Cpp.run, Cpp.freeBatch, if_true]
      split
      · exact .refused (by decide)
      · refine Cpp.enter_course native (.freeBatch batch) ?_ fun _ => trivial
        exact fun same => by cases same
  | destroyEngine =>
      simp only [CCall.marshal, Cpp.run, Cpp.destroyEngine, engine, if_false, if_true]
      cases replied : native (.destroy frame.engine) with
      | none => exact .aborted rfl
      | some reply =>
          have meaning : Cpp.replies native (.destroy frame.engine) = some reply.meaning := by
            rw [Cpp.replies, replied, Option.map_some]
          exact .succeeded .destroyEngine meaning (.inl rfl) trivial

/-! ### The Rust adapter -/

/-- The values that Rust has written decode to the statuses of the engine. -/
theorem Rust.committed_statuses {frame : Frame} {batch count : Nat} {reply : Rust.Reply}
    (small : count < 2 ^ 64) :
    (CCall.getTransferStatuses batch count).Committed frame reply.meaning
      ((contents reply.statuses (UInt64.ofNat count).toNat).zipIdx.map fun (status, index) =>
        .status frame.array index (Rust.encodeStatus status)) := by
  rw [UInt64.toNat_ofNat_of_lt' small]
  refine ⟨(contents reply.statuses count).map Rust.encodeStatus, by simp [contents], ?_, ?_⟩
  · rw [List.zipIdx_map, List.map_map]
    rfl
  · intro index value here result operation content answers
    have below : index < count := by
      have inside := (List.getElem?_eq_some_iff.mp here).1
      simpa [contents] using inside
    have encoded : Rust.encodeStatus (reply.statuses index) = value := by
      simpa [contents, List.getElem?_range below] using here
    have content' : (reply.statuses index).toPython? (fun error => some error.errorCode) =
        some result := content
    have answers' : (reply.statuses index).Answers operation := by
      cases same' : reply.statuses index with
      | pending | failed error => trivial
      | completed receive =>
          rw [same'] at content'
          obtain rfl := Option.some.inj content'
          simpa [TransferStatus.Answers, Native.TransferStatus.Answers, ReceiveAnswers]
            using answers
    rw [← encoded]
    exact Rust.decode_encodeStatus index answers' content'

/-- In Rust the array is decoded inside the closure, still before the engine is called. -/
theorem Rust.course_submitTransfer (allocates : Nat → Bool) (native : Rust.Engine)
    {frame : Frame} {requests : List R101Request}
    (passes : (CCall.submitTransfer requests).Passes frame) :
    Course (Rust.replies native) frame (.submitTransfer requests)
      (Rust.run allocates native ((CCall.submitTransfer requests).marshal frame true)) := by
  obtain ⟨engine, first, -⟩ := frame.nonnull
  have engineMut : Rust.engineMut frame.engine = .ok frame.engine := if_neg engine
  simp only [CCall.marshal, Rust.run, Rust.submitTransfer, first, if_false, if_true,
    Rust.arrayLen_eq, engineMut]
  cases valid : Cpp.validArray 56 8 frame.array (.ofNat requests.length) with
  | false => exact Rust.enter_refused native .invalid
  | true =>
      simp only [if_true, Bind.bind, Except.bind, contents_requests passes]
      cases allocates (UInt64.ofNat requests.length).toNat with
      | false => exact Rust.enter_refused native .noMemory
      | true =>
          rw [Rust.mapM_decodeRequest]
          cases decoded : requests.mapM Cpp.decodeRequest with
          | none => exact Rust.enter_refused native .invalid
          | some natives =>
              refine Rust.enter_course native
                (.submitTransfer (requests_ne_nil valid) decoded) ?_ fun _ => rfl
              exact fun same => by cases same

/-- Rust lets the engine fill an array of its own. -/
theorem Rust.course_getTransferStatuses (allocates : Nat → Bool) (native : Rust.Engine)
    {frame : Frame} {batch count : Nat}
    (passes : (CCall.getTransferStatuses batch count).Passes frame) :
    Course (Rust.replies native) frame (.getTransferStatuses batch count)
      (Rust.run allocates native ((CCall.getTransferStatuses batch count).marshal frame true)) := by
  have engineMut : Rust.engineMut frame.engine = .ok frame.engine := if_neg frame.nonnull.1
  simp only [CCall.marshal, Rust.run, Rust.getTransferStatuses, if_true, Rust.arrayLen_eq,
    engineMut]
  split
  · exact .refused (by decide)
  · cases valid : Cpp.validArray 24 8 frame.array (.ofNat count) with
    | false => exact .refused (by decide)
    | true =>
        simp only [if_true, Bind.bind, Except.bind]
        cases allocates (UInt64.ofNat count).toNat with
        | false => exact .refused (by decide)
        | true =>
            have decodes := CCall.Decodes.statuses frame batch passes.2
            simp only [Bool.true_eq_false, if_false, Pure.pure, Except.pure]
            cases replied : native (.getTransferStatuses frame.engine (.ofNat batch)
              (UInt64.ofNat count).toNat) with
            | none => exact .aborted rfl
            | some reply =>
                have meaning : Rust.replies native (.getTransferStatuses frame.engine
                    (.ofNat batch) (UInt64.ofNat count).toNat) = some reply.meaning := by
                  rw [Rust.replies, replied, Option.map_some]
                cases result : reply.result with
                | error error =>
                    have raised : reply.meaning.error = some error.errorCode := by
                      simp only [Rust.Reply.meaning, result]
                    simp only [result]
                    exact .failed decodes meaning raised (fun same => by cases same)
                      (Rust.encodeError_ne_ok error)
                | ok value =>
                    have noError : reply.meaning.error = none := by
                      simp only [Rust.Reply.meaning, result]
                    simp only [result]
                    exact .succeeded decodes meaning (.inr noError)
                      (Rust.committed_statuses passes.2)

/-- Every function of the Rust adapter. -/
theorem Rust.course (allocates : Nat → Bool) (native : Rust.Engine) {frame : Frame}
    {function : CCall} (passes : function.Passes frame) :
    Course (Rust.replies native) frame function
      (Rust.run allocates native (function.marshal frame true)) := by
  obtain ⟨engine, first, second, third, array, input⟩ := frame.nonnull
  have engineMut : Rust.engineMut frame.engine = .ok frame.engine := if_neg engine
  cases function with
  | registerLocalMemory memory access =>
      simp only [CCall.marshal, Rust.run, Rust.registerLocalMemory, first, second, third, or_self,
        if_false, if_true, Rust.arrayLen_eq, engineMut]
      split
      · cases Rust.decodeAccess access with
        | error error => exact Rust.enter_refused native error
        | ok flags =>
            refine Rust.enter_course native (.registerLocalMemory memory access flags) ?_
              fun _ => rfl
            exact fun same => by cases same
      · exact Rust.enter_refused native .invalid
  | deregisterLocalMemory memory =>
      simp only [CCall.marshal, Rust.run, Rust.deregisterLocalMemory, if_true, engineMut]
      split
      · exact .refused (by decide)
      · refine Rust.enter_course native (.deregisterLocalMemory memory) ?_ fun _ => trivial
        exact fun same => by cases same
  | importRemoteMemory peer metadata =>
      simp only [CCall.marshal, Rust.run, Rust.importRemoteMemory, first, if_false, if_true,
        Rust.arrayLen_eq, engineMut]
      split
      · exact .refused (by decide)
      · split
        · refine Rust.enter_course native (.importRemoteMemory peer metadata) ?_ fun _ => rfl
          exact fun same => by cases same
        · exact Rust.enter_refused native .invalid
  | removeRemoteMemory remoteMemory =>
      simp only [CCall.marshal, Rust.run, Rust.removeRemoteMemory, if_true, engineMut]
      split
      · exact .refused (by decide)
      · refine Rust.enter_course native (.removeRemoteMemory remoteMemory) ?_ fun _ => trivial
        exact fun same => by cases same
  | createPeer =>
      simp only [CCall.marshal, Rust.run, Rust.createPeer, first, second, third, or_self,
        if_false, if_true, engineMut]
      refine Rust.enter_course native .createPeer ?_ fun _ => rfl
      exact fun same => by cases same
  | connectPeer peer metadata =>
      simp only [CCall.marshal, Rust.run, Rust.connectPeer, if_true, Rust.arrayLen_eq, engineMut]
      split
      · exact .refused (by decide)
      · split
        · refine Rust.enter_course native (.connectPeer peer metadata) ?_ fun _ => trivial
          exact fun same => by cases same
        · exact Rust.enter_refused native .invalid
  | destroyPeer peer =>
      simp only [CCall.marshal, Rust.run, Rust.destroyPeer, if_true, engineMut]
      split
      · exact .refused (by decide)
      · refine Rust.enter_course native (.destroyPeer peer) ?_ fun _ => trivial
        exact fun same => by cases same
  | submitTransfer requests => exact Rust.course_submitTransfer allocates native passes
  | getTransferStatuses batch count => exact Rust.course_getTransferStatuses allocates native passes
  | freeBatch batch =>
      simp only [CCall.marshal, Rust.run, Rust.freeBatch, if_true, engineMut]
      split
      · exact .refused (by decide)
      · refine Rust.enter_course native (.freeBatch batch) ?_ fun _ => trivial
        exact fun same => by cases same
  | destroyEngine =>
      simp only [CCall.marshal, Rust.run, Rust.destroyEngine, engine, if_false, if_true]
      cases replied : native (.destroy frame.engine) with
      | none => exact .aborted rfl
      | some reply =>
          have meaning : Rust.replies native (.destroy frame.engine) = some reply.meaning := by
            rw [Rust.replies, replied, Option.map_some]
          exact .succeeded .destroyEngine meaning (.inl rfl) trivial

/-! ### A null engine -/

/-- Every function checks the engine before it calls it. -/
theorem Cpp.run_closed (allocates : Nat → Bool) (native : Cpp.Engine) (frame : Frame)
    (function : CCall) :
    (Cpp.run allocates native (function.marshal frame false)).result = some R101.invalid ∧
      (Cpp.run allocates native (function.marshal frame false)).calls = [] := by
  obtain ⟨engine, first, second, third, array, input⟩ := frame.nonnull
  cases function <;>
    simp [CCall.marshal, Cpp.run, Cpp.registerLocalMemory, Cpp.deregisterLocalMemory,
      Cpp.importRemoteMemory, Cpp.removeRemoteMemory, Cpp.createPeer, Cpp.connectPeer,
      Cpp.destroyPeer, Cpp.submitTransfer, Cpp.getTransferStatuses, Cpp.freeBatch,
      Cpp.destroyEngine, Outcome.early, first, second, third]

theorem Rust.run_closed (allocates : Nat → Bool) (native : Rust.Engine) (frame : Frame)
    (function : CCall) :
    (Rust.run allocates native (function.marshal frame false)).result = some R101.invalid ∧
      (Rust.run allocates native (function.marshal frame false)).calls = [] := by
  obtain ⟨engine, first, second, third, array, input⟩ := frame.nonnull
  cases function with
  | registerLocalMemory memory access =>
      simp only [CCall.marshal, Rust.run, Rust.registerLocalMemory, first, second, third, or_self,
        if_false, Rust.arrayLen_eq]
      split <;> exact ⟨rfl, rfl⟩
  | importRemoteMemory peer metadata =>
      simp only [CCall.marshal, Rust.run, Rust.importRemoteMemory, first, if_false,
        Rust.arrayLen_eq]
      split
      · exact ⟨rfl, rfl⟩
      · split <;> exact ⟨rfl, rfl⟩
  | connectPeer peer metadata =>
      simp only [CCall.marshal, Rust.run, Rust.connectPeer, Rust.arrayLen_eq]
      split
      · exact ⟨rfl, rfl⟩
      · split <;> exact ⟨rfl, rfl⟩
  | submitTransfer requests =>
      simp only [CCall.marshal, Rust.run, Rust.submitTransfer, first, if_false, Rust.arrayLen_eq]
      split <;> exact ⟨rfl, rfl⟩
  | getTransferStatuses batch count =>
      simp only [CCall.marshal, Rust.run, Rust.getTransferStatuses, Rust.arrayLen_eq]
      split
      · exact ⟨rfl, rfl⟩
      · cases Cpp.validArray 24 8 frame.array (.ofNat count) <;> exact ⟨rfl, rfl⟩
  | deregisterLocalMemory handle | removeRemoteMemory handle | destroyPeer handle
  | freeBatch handle =>
      simp only [CCall.marshal, Rust.run, Rust.deregisterLocalMemory, Rust.removeRemoteMemory,
        Rust.destroyPeer, Rust.freeBatch]
      split <;> exact ⟨rfl, rfl⟩
  | createPeer =>
      simp only [CCall.marshal, Rust.run, Rust.createPeer, first, second, third, or_self,
        if_false]
      exact ⟨rfl, rfl⟩
  | destroyEngine => exact ⟨rfl, rfl⟩

/-! ### The objects of the engine and the C API

The engine of a language holds typed requests and 64-bit ranges, the header speaks of handles
and opcodes.  `Represents` says that these are the same objects. -/

/-- The registration that a range with its metadata is to the engine. -/
def Registration.of (registered : Memory × Bytes) : Registration where
  address := castPointer registered.1.address
  length := .ofNat registered.1.size
  metadata := registered.2

/-- The opcode of a request that the engine was given. -/
def Native.Request.opcode (request : Native.Request) : UInt32 :=
  opcodes request.operation.toPython.type

/-- The C API shows what the engine holds. -/
structure Represents {Region : Type} (objects : EngineObjects Region) (shown : CEngine Region) :
    Prop where
  registrationsIssued : objects.registrations.issued = shown.registrations.issued
  registrations : ∀ handle,
    objects.registrations.get? handle = (shown.registrations.get? handle).map Registration.of
  small : ∀ handle registered, shown.registrations.get? handle = some registered →
    registered.1.address < 2 ^ 64 ∧ registered.1.size < 2 ^ 64
  imports : objects.imports = shown.imports
  peers : objects.peers = shown.peers
  connected : objects.connected = shown.connected
  batchesIssued : objects.batches.issued = shown.batches.issued
  batches : ∀ handle,
    (objects.batches.get? handle).map (List.map Native.Request.opcode) = shown.batches.get? handle

/-- The same, for an engine that may be gone. -/
inductive Shows {Region : Type} : Option (EngineObjects Region) → Option (CEngine Region) → Prop
    where
  | gone : Shows none none
  | live {objects : EngineObjects Region} {shown : CEngine Region}
      (represents : Represents objects shown) : Shows (some objects) (some shown)

namespace EngineObjects

variable {Region : Type} [DecidableEq Region] (describes : Bytes → Option Region)
  (reads : Span → Bytes) (replies : EngineCall → Option EngineReply)

/-- The engine after some operations. -/
def afterCalls : Option (EngineObjects Region) → List EngineCall →
    Option (Option (EngineObjects Region))
  | objects, [] => some objects
  | none, _ :: _ => none
  | some objects, call :: rest => do
      let reply ← replies call
      let next ← objects.accept describes reads call reply
      afterCalls next rest

end EngineObjects

/-! ### What the caller reads

What Python reads back from its words and its array, when the function has written what it
commits. -/

/-- A commit overwrites what was cleared. -/
theorem lastWord_commitMetadata (frame : Frame) (handle : UInt64) (span : Span) :
    let writes := clear [frame.first, frame.second, frame.third] ++
      commitMetadata frame.first frame.second frame.third handle span
    lastWord frame.first writes = some handle ∧ lastWord frame.second writes = some span.data ∧
      lastWord frame.third writes = some span.size := by
  obtain ⟨firstSecond, firstThird, secondThird⟩ := frame.distinct
  simp [clear, commitMetadata, lastWord, firstSecond, firstThird, secondThird, firstSecond.symm,
    firstThird.symm, secondThird.symm]

theorem lastWord_commitHandle (frame : Frame) (handle : UInt64) (span : Span) :
    lastWord frame.first (clear [frame.first] ++ commitHandle frame.first handle span) =
      some handle := by
  simp [clear, commitHandle, lastWord]

/-- Assignments do not change the length of an array. -/
theorem length_filled (array : UInt64) (before : List R101TransferStatus) (writes : List Write) :
    (filled array before writes).length = before.length := by
  induction writes generalizing before with
  | nil => rfl
  | cons write rest inductionHypothesis =>
      have kept : (assign array before write).length = before.length := by
        cases write with
        | word pointer value => rfl
        | status target index value =>
            simp only [assign]
            split
            · exact List.length_set
            · rfl
      rw [filled, List.foldl_cons]
      exact (inductionHypothesis _).trans kept

/-- The caller finds the metadata that the engine owns. -/
theorem answer_metadata {frame : Frame} {function : CCall} {reply : EngineReply} {answer : Answer}
    {call : EngineCall} (given : reply.metadata.data ≠ 0)
    (nonempty : frame.reads reply.metadata ≠ []) (answered : frame.answer function ⟨some R101.ok,
      clear [frame.first, frame.second, frame.third] ++
        commitMetadata frame.first frame.second frame.third reply.handle reply.metadata, [call]⟩ =
      some answer) :
    answer.code = R101.ok ∧ answer.handle = reply.handle.toNat ∧
      answer.metadata = some (frame.reads reply.metadata) := by
  obtain ⟨first, second, third⟩ := lastWord_commitMetadata frame reply.handle reply.metadata
  have sized : reply.metadata.size ≠ 0 := by
    intro none_
    have length := frame.whole reply.metadata
    rw [none_] at length
    exact nonempty (List.length_eq_zero_iff.mp length)
  obtain rfl := Option.some.inj answered
  refine ⟨rfl, ?_, ?_⟩
  · simp only [first, Option.getD_some]
  · simp only [second, third, Option.getD_some, given, sized, or_self, if_false]

/-- The caller finds the handle that the engine gave. -/
theorem answer_handle {frame : Frame} {function : CCall} {reply : EngineReply} {answer : Answer}
    {call : EngineCall}
    (answered : frame.answer function ⟨some R101.ok,
      clear [frame.first] ++ commitHandle frame.first reply.handle reply.metadata, [call]⟩ =
      some answer) : answer.code = R101.ok ∧ answer.handle = reply.handle.toNat := by
  have first := lastWord_commitHandle frame reply.handle reply.metadata
  obtain rfl := Option.some.inj answered
  refine ⟨rfl, ?_⟩
  simp only [first, Option.getD_some]

/-! ### One operation

`Represents` is kept by every change that an operation makes to the objects, on both sides at
once. -/

/-- A decoded entry keeps its opcode and its peer. -/
theorem Cpp.decodeRequest_keeps {entry : R101Request} {native : Native.Request}
    (decoded : Cpp.decodeRequest entry = some native) :
    native.opcode = entry.opcode ∧ native.peer = entry.peer := by
  by_cases allowed : FlagsAllowed entry.opcode entry.flags
  · rw [Cpp.decodeRequest_of_allowed allowed] at decoded
    obtain ⟨operation, chosen, rfl⟩ := Option.map_eq_some_iff.mp decoded
    refine ⟨?_, rfl⟩
    unfold Cpp.decodeOperation at chosen
    split_ifs at chosen with isWrite isRead isSend isRecv isWriteImm isCompareSwap isFetchAdd <;>
      obtain rfl := Option.some.inj chosen
    · exact isWrite.symm
    · exact isRead.symm
    · exact isSend.symm
    · exact isRecv.symm
    · exact isWriteImm.symm
    · exact isCompareSwap.symm
    · exact isFetchAdd.symm
  · rw [Cpp.decodeRequest_of_not_allowed allowed] at decoded
    cases decoded

/-- So does an array, entry by entry. -/
theorem Cpp.decodeRequests_keep {entries : List R101Request} {natives : List Native.Request}
    (decoded : entries.mapM Cpp.decodeRequest = some natives) :
    natives.map Native.Request.opcode = entries.map R101Request.opcode ∧
      natives.map Native.Request.peer = entries.map R101Request.peer := by
  induction entries generalizing natives with
  | nil =>
      obtain rfl : [] = natives := Option.some.inj decoded
      exact ⟨rfl, rfl⟩
  | cons entry rest inductionHypothesis =>
      rw [List.mapM_cons] at decoded
      obtain ⟨native, head, decoded⟩ := Option.bind_eq_some_iff.mp decoded
      obtain ⟨tail, decodedRest, decoded⟩ := Option.bind_eq_some_iff.mp decoded
      obtain rfl : native :: tail = natives := Option.some.inj decoded
      obtain ⟨opcode, peer⟩ := Cpp.decodeRequest_keeps head
      obtain ⟨opcodes, peers⟩ := inductionHypothesis decodedRest
      exact ⟨by rw [List.map_cons, List.map_cons, opcode, opcodes],
        by rw [List.map_cons, List.map_cons, peer, peers]⟩

/-- An address that fits is passed as it is. -/
theorem toNat_castPointer {address : Nat} (small : address < 2 ^ 64) :
    (castPointer address).toNat = address := by
  rw [castPointer, Int.emod_eq_of_lt (by omega) (by exact_mod_cast small), Int.toNat_natCast,
    UInt64.toNat_ofNat_of_lt' small]

section Represents

variable {Region : Type} {objects : EngineObjects Region} {shown : CEngine Region}

/-- Nothing is live on either side. -/
theorem Represents.initial : Represents ({} : EngineObjects Region) {} where
  registrationsIssued := rfl
  registrations := fun _ => rfl
  small := fun _ _ held => by cases held
  imports := rfl
  peers := rfl
  connected := rfl
  batchesIssued := rfl
  batches := fun _ => rfl

/-- Both sides have issued the same handles. -/
theorem Represents.fresh_registration (represents : Represents objects shown) {handle : Handle}
    (fresh : objects.registrations.Fresh handle) : shown.registrations.Fresh handle :=
  ⟨fresh.1, fresh.2.1, represents.registrationsIssued ▸ fresh.2.2⟩

theorem Represents.fresh_batch (represents : Represents objects shown) {handle : Handle}
    (fresh : objects.batches.Fresh handle) : shown.batches.Fresh handle :=
  ⟨fresh.1, fresh.2.1, represents.batchesIssued ▸ fresh.2.2⟩

/-- A range that overlaps no registration of the engine overlaps none that the C API shows. -/
theorem Represents.separate (represents : Represents objects shown) {memory : Memory}
    (small : memory.address < 2 ^ 64 ∧ memory.size < 2 ^ 64)
    (separate : ∀ registered ∈ objects.registrations.live.values,
      ¬registered.Overlaps (castPointer memory.address) (.ofNat memory.size)) :
    ∀ registered ∈ shown.registrations.live.values, ¬memory.Overlaps registered.1 := by
  intro registered member overlaps
  obtain ⟨handle, held⟩ := OrderedDict.mem_values.mp member
  have held' : objects.registrations.get? handle = some (Registration.of registered) := by
    have shown_ : shown.registrations.get? handle = some registered := held
    rw [represents.registrations, shown_, Option.map_some]
  obtain ⟨smallAddress, smallSize⟩ := represents.small handle registered held
  apply separate _ (OrderedDict.mem_values.mpr ⟨handle, held'⟩)
  rw [Registration.Overlaps, Registration.of, toNat_castPointer smallAddress,
    toNat_castPointer small.1, UInt64.toNat_ofNat_of_lt' smallSize,
    UInt64.toNat_ofNat_of_lt' small.2]
  exact overlaps

/-- A registration, whose range fits 64 bits. -/
theorem Represents.register (represents : Represents objects shown) {memory : Memory}
    {metadata : Bytes} {handle : Handle} (small : memory.address < 2 ^ 64 ∧ memory.size < 2 ^ 64)
    (fresh : objects.registrations.Fresh handle) (fresh' : shown.registrations.Fresh handle) :
    Represents
      { objects with
        registrations := objects.registrations.add handle (.of (memory, metadata)) fresh }
      { shown with
        registrations := shown.registrations.add handle (memory, metadata) fresh' } where
  registrationsIssued := congrArg (handle :: ·) represents.registrationsIssued
  registrations other := by
    rw [HandleTable.get?_add, HandleTable.get?_add, represents.registrations]
    split <;> rfl
  small other registered held := by
    rw [HandleTable.get?_add] at held
    split at held
    · obtain rfl := Option.some.inj held
      exact small
    · exact represents.small other registered held
  imports := represents.imports
  peers := represents.peers
  connected := represents.connected
  batchesIssued := represents.batchesIssued
  batches := represents.batches

/-- The end of a registration. -/
theorem Represents.deregister (represents : Represents objects shown) (handle : Handle) :
    Represents { objects with registrations := objects.registrations.remove handle }
      { shown with registrations := shown.registrations.remove handle } where
  registrationsIssued := represents.registrationsIssued
  registrations other := by
    rw [HandleTable.get?_remove, HandleTable.get?_remove, represents.registrations]
    split <;> rfl
  small other registered held := by
    rw [HandleTable.get?_remove] at held
    split at held
    · cases held
    · exact represents.small other registered held
  imports := represents.imports
  peers := represents.peers
  connected := represents.connected
  batchesIssued := represents.batchesIssued
  batches := represents.batches

/-- The tables that look the same to the engine and to the C API change in the same way. -/
theorem Represents.withImports (represents : Represents objects shown)
    {imports imports' : HandleTable (Handle × Region)} {peers peers' : HandleTable Unit}
    {connected connected' : List Handle} (sameImports : imports = imports')
    (samePeers : peers = peers') (sameConnected : connected = connected') :
    Represents { objects with imports := imports, peers := peers, connected := connected }
      { shown with imports := imports', peers := peers', connected := connected' } :=
  ⟨represents.registrationsIssued, represents.registrations, represents.small, sameImports,
    samePeers, sameConnected, represents.batchesIssued, represents.batches⟩

/-- A batch, as typed requests and as their opcodes. -/
theorem Represents.submit (represents : Represents objects shown) {requests : List R101Request}
    {natives : List Native.Request} {handle : Handle}
    (same : natives.map Native.Request.opcode = requests.map R101Request.opcode)
    (fresh : objects.batches.Fresh handle) (fresh' : shown.batches.Fresh handle) :
    Represents { objects with batches := objects.batches.add handle natives fresh }
      { shown with
        batches := shown.batches.add handle (requests.map R101Request.opcode) fresh' } where
  registrationsIssued := represents.registrationsIssued
  registrations := represents.registrations
  small := represents.small
  imports := represents.imports
  peers := represents.peers
  connected := represents.connected
  batchesIssued := congrArg (handle :: ·) represents.batchesIssued
  batches other := by
    rw [HandleTable.get?_add, HandleTable.get?_add, ← represents.batches]
    split
    · rw [Option.map_some, same]
    · rfl

/-- The end of a batch. -/
theorem Represents.free (represents : Represents objects shown) (handle : Handle) :
    Represents { objects with batches := objects.batches.remove handle }
      { shown with batches := shown.batches.remove handle } where
  registrationsIssued := represents.registrationsIssued
  registrations := represents.registrations
  small := represents.small
  imports := represents.imports
  peers := represents.peers
  connected := represents.connected
  batchesIssued := represents.batchesIssued
  batches other := by
    rw [HandleTable.get?_remove, HandleTable.get?_remove, ← represents.batches]
    split <;> rfl

/-- Both sides find the same import. -/
theorem Represents.importOf [DecidableEq Region] (represents : Represents objects shown)
    (peer : Handle) (region : Region) :
    objects.importOf peer region = shown.importOf peer region := by
  rw [EngineObjects.importOf, CEngine.importOf, represents.imports]

end Represents

/-! ### One call

For each function of the C API: if the engine has done what its contract says, the call has done
what the header says, and the objects that the header describes are still those of the engine.
The guards of the two contracts are compared one by one; only the registered range and the decoded
requests need more than that, since the engine sees them as 64-bit words. -/

section Calls

variable {Region : Type} [DecidableEq Region] {objects : EngineObjects Region}
  {shown : CEngine Region} {describes : Bytes → Option Region} {frame : Frame}
  {reply : EngineReply} {answer : Answer} {writes : List Write} {call : EngineCall}
  {objects' : Option (EngineObjects Region)}

/-- The header allows the answer, and what it then describes is what the engine has. -/
def CEngine.Follows (describes : Bytes → Option Region) (shown : CEngine Region) (answer : Answer)
    (function : CCall) (objects' : Option (EngineObjects Region)) : Prop :=
  ∃ shown', shown.succeed describes answer function = some shown' ∧ Shows objects' shown'

/-- The range is compared as a pair of words by the engine, and as a pair of numbers by the
header. -/
theorem Represents.succeed_registerLocalMemory (represents : Represents objects shown)
    {memory : Memory} {access flags : UInt32}
    (passes : (CCall.registerLocalMemory memory access).Passes frame)
    (committed : (CCall.registerLocalMemory memory access).Committed frame reply writes)
    (answered : frame.answer (.registerLocalMemory memory access) ⟨some R101.ok, writes, [call]⟩ =
      some answer)
    (succeeded : objects.succeed describes frame.reads reply (.registerLocalMemory frame.engine
      (castPointer memory.address) (.ofNat memory.size) flags) = some objects') :
    shown.Follows describes answer (.registerLocalMemory memory access) objects' := by
  subst committed
  simp only [EngineObjects.succeed, Option.bind_eq_bind, Option.bind_eq_some_iff,
    Option.guard_eq_some', Option.dite_none_right_eq_some, Option.pure_def,
    Option.some.injEq] at succeeded
  obtain ⟨_, ⟨given, nonempty, inRange, separate⟩, fresh, rfl⟩ := succeeded
  obtain ⟨-, handle, metadata⟩ := answer_metadata given nonempty answered
  rw [toNat_castPointer passes.1, UInt64.toNat_ofNat_of_lt' passes.2] at inRange
  have fresh' := represents.fresh_registration fresh
  have separate' := represents.separate passes separate
  refine ⟨_, ?_, .live (represents.register passes fresh fresh')⟩
  simp only [CEngine.succeed, handle, Option.bind_eq_bind, Option.bind_eq_some_iff,
    Option.guard_eq_some', Option.dite_none_right_eq_some, Option.pure_def]
  exact ⟨_, metadata, (), ⟨nonempty, inRange, separate'⟩, fresh', rfl⟩

theorem Represents.succeed_deregisterLocalMemory (represents : Represents objects shown)
    {memory : Handle} (small : memory < 2 ^ 64)
    (succeeded : objects.succeed describes frame.reads reply
      (.deregisterLocalMemory frame.engine (.ofNat memory)) = some objects') :
    shown.Follows describes answer (.deregisterLocalMemory memory) objects' := by
  simp only [EngineObjects.succeed, Option.bind_eq_bind, Option.bind_eq_some_iff,
    Option.guard_eq_some', Option.pure_def, Option.some.injEq,
    UInt64.toNat_ofNat_of_lt' small] at succeeded
  obtain ⟨_, held, rfl⟩ := succeeded
  rw [represents.registrations, Option.isSome_map] at held
  refine ⟨_, ?_, .live (represents.deregister memory)⟩
  simp [CEngine.succeed, held]

/-- An import that is live already is found again on both sides, or on neither. -/
theorem Represents.succeed_importRemoteMemory (represents : Represents objects shown)
    {peer : Handle} {metadata : Bytes}
    (passes : (CCall.importRemoteMemory peer metadata).Passes frame)
    (committed : (CCall.importRemoteMemory peer metadata).Committed frame reply writes)
    (answered : frame.answer (.importRemoteMemory peer metadata) ⟨some R101.ok, writes, [call]⟩ =
      some answer)
    (succeeded : objects.succeed describes frame.reads reply (.importRemoteMemory frame.engine
      (.ofNat peer) ⟨frame.input, .ofNat metadata.length⟩) = some objects') :
    shown.Follows describes answer (.importRemoteMemory peer metadata) objects' := by
  subst committed
  obtain ⟨small, -, bytes⟩ := passes
  obtain ⟨-, handle⟩ := answer_handle answered
  simp only [EngineObjects.succeed, bytes, Option.bind_eq_bind, Option.bind_eq_some_iff,
    Option.guard_eq_some', UInt64.toNat_ofNat_of_lt' small, represents.importOf] at succeeded
  obtain ⟨region, described, _, allowed, succeeded⟩ := succeeded
  rw [represents.peers, represents.connected] at allowed
  simp only [CEngine.Follows, CEngine.succeed, handle, Option.bind_eq_bind,
    Option.bind_eq_some_iff, Option.guard_eq_some']
  cases found : shown.importOf peer region with
  | some existing =>
      simp only [found, Option.bind_eq_some_iff, Option.guard_eq_some', Option.pure_def,
        Option.some.injEq] at succeeded
      obtain ⟨_, same, rfl⟩ := succeeded
      refine ⟨_, ⟨region, described, (), allowed, ?_⟩, .live represents⟩
      simp only [found, Option.bind_eq_some_iff, Option.guard_eq_some', Option.pure_def]
      exact ⟨(), same, trivial⟩
  | none =>
      simp only [found, Option.dite_none_right_eq_some, Option.pure_def,
        Option.some.injEq] at succeeded
      obtain ⟨fresh, rfl⟩ := succeeded
      have fresh' : shown.imports.Fresh reply.handle.toNat := represents.imports ▸ fresh
      refine ⟨_, ⟨region, described, (), allowed, ?_⟩, .live (represents.withImports
        (HandleTable.add_congr represents.imports fresh fresh') represents.peers
        represents.connected)⟩
      simp only [found, Option.dite_none_right_eq_some, Option.pure_def]
      exact ⟨fresh', trivial⟩

theorem Represents.succeed_removeRemoteMemory (represents : Represents objects shown)
    {remoteMemory : Handle} (small : remoteMemory < 2 ^ 64)
    (succeeded : objects.succeed describes frame.reads reply
      (.removeRemoteMemory frame.engine (.ofNat remoteMemory)) = some objects') :
    shown.Follows describes answer (.removeRemoteMemory remoteMemory) objects' := by
  simp only [EngineObjects.succeed, Option.bind_eq_bind, Option.bind_eq_some_iff,
    Option.guard_eq_some', Option.pure_def, Option.some.injEq,
    UInt64.toNat_ofNat_of_lt' small] at succeeded
  obtain ⟨_, held, rfl⟩ := succeeded
  rw [represents.imports] at held
  refine ⟨_, ?_, .live (represents.withImports (congrArg (·.remove remoteMemory)
    represents.imports) represents.peers represents.connected)⟩
  simp [CEngine.succeed, held]

/-- The metadata of the new peer is what the engine's span refers to. -/
theorem Represents.succeed_createPeer (represents : Represents objects shown)
    (committed : CCall.createPeer.Committed frame reply writes)
    (answered : frame.answer .createPeer ⟨some R101.ok, writes, [call]⟩ = some answer)
    (succeeded : objects.succeed describes frame.reads reply (.createPeer frame.engine) =
      some objects') :
    shown.Follows describes answer .createPeer objects' := by
  subst committed
  simp only [EngineObjects.succeed, Option.bind_eq_bind, Option.bind_eq_some_iff,
    Option.guard_eq_some', Option.dite_none_right_eq_some, Option.pure_def,
    Option.some.injEq] at succeeded
  obtain ⟨_, ⟨given, nonempty⟩, fresh, rfl⟩ := succeeded
  obtain ⟨-, handle, metadata⟩ := answer_metadata given nonempty answered
  have fresh' : shown.peers.Fresh reply.handle.toNat := represents.peers ▸ fresh
  refine ⟨_, ?_, .live (represents.withImports represents.imports
    (HandleTable.add_congr represents.peers fresh fresh') represents.connected)⟩
  simp [CEngine.succeed, handle, metadata, nonempty, fresh']

theorem Represents.succeed_connectPeer (represents : Represents objects shown)
    {peer : Handle} {metadata : Bytes} (passes : (CCall.connectPeer peer metadata).Passes frame)
    (succeeded : objects.succeed describes frame.reads reply (.connectPeer frame.engine
      (.ofNat peer) ⟨frame.input, .ofNat metadata.length⟩) = some objects') :
    shown.Follows describes answer (.connectPeer peer metadata) objects' := by
  obtain ⟨small, nonempty, -⟩ := passes
  simp only [EngineObjects.succeed, Option.bind_eq_bind, Option.bind_eq_some_iff,
    Option.guard_eq_some', Option.pure_def, Option.some.injEq,
    UInt64.toNat_ofNat_of_lt' small] at succeeded
  obtain ⟨_, ⟨held, unconnected⟩, rfl⟩ := succeeded
  rw [represents.peers] at held
  rw [represents.connected] at unconnected
  refine ⟨_, ?_, .live (represents.withImports represents.imports represents.peers
    (congrArg (peer :: ·) represents.connected))⟩
  simp [CEngine.succeed, held, unconnected, nonempty]

/-- The imports of the peer go with it. -/
theorem Represents.succeed_destroyPeer (represents : Represents objects shown)
    {peer : Handle} (small : peer < 2 ^ 64)
    (succeeded : objects.succeed describes frame.reads reply
      (.destroyPeer frame.engine (.ofNat peer)) = some objects') :
    shown.Follows describes answer (.destroyPeer peer) objects' := by
  simp only [EngineObjects.succeed, Option.bind_eq_bind, Option.bind_eq_some_iff,
    Option.guard_eq_some', Option.pure_def, Option.some.injEq,
    UInt64.toNat_ofNat_of_lt' small] at succeeded
  obtain ⟨_, held, rfl⟩ := succeeded
  rw [represents.peers] at held
  refine ⟨_, ?_, .live (represents.withImports
    (congrArg (·.filter fun entry => entry.1 ≠ peer) represents.imports)
    (congrArg (·.remove peer) represents.peers) represents.connected)⟩
  simp [CEngine.succeed, held]

/-- Decoding keeps the peers and the opcodes, and the engine promises no more of a batch. -/
theorem Represents.succeed_submitTransfer (represents : Represents objects shown)
    {requests : List R101Request} {natives : List Native.Request} (nonempty : requests ≠ [])
    (decoded : requests.mapM Cpp.decodeRequest = some natives)
    (committed : (CCall.submitTransfer requests).Committed frame reply writes)
    (answered : frame.answer (.submitTransfer requests) ⟨some R101.ok, writes, [call]⟩ =
      some answer)
    (succeeded : objects.succeed describes frame.reads reply
      (.submitTransfer frame.engine natives) = some objects') :
    shown.Follows describes answer (.submitTransfer requests) objects' := by
  subst committed
  obtain ⟨-, handle⟩ := answer_handle answered
  obtain ⟨sameOpcodes, samePeers⟩ := Cpp.decodeRequests_keep decoded
  simp only [EngineObjects.succeed, Option.bind_eq_bind, Option.bind_eq_some_iff,
    Option.guard_eq_some', Option.dite_none_right_eq_some, Option.pure_def,
    Option.some.injEq] at succeeded
  obtain ⟨_, known, fresh, rfl⟩ := succeeded
  rw [represents.peers] at known
  have known' : ∀ request ∈ requests, (shown.peers.get? request.peer.toNat).isSome = true := by
    intro request member
    have named : request.peer ∈ natives.map Native.Request.peer :=
      samePeers ▸ List.mem_map_of_mem member
    obtain ⟨native, isNative, same⟩ := List.mem_map.mp named
    exact same ▸ known native isNative
  have fresh' := represents.fresh_batch fresh
  refine ⟨_, ?_, .live (represents.submit sameOpcodes fresh fresh')⟩
  simp only [CEngine.succeed, handle, Option.bind_eq_bind, Option.bind_eq_some_iff,
    Option.guard_eq_some', Option.dite_none_right_eq_some, Option.pure_def]
  exact ⟨(), ⟨nonempty, known'⟩, fresh', trivial⟩

/-- A query changes nothing; the caller reads as many entries as the batch has tasks. -/
theorem Represents.succeed_getTransferStatuses (represents : Represents objects shown)
    {batch count : Nat} (small : batch < 2 ^ 64)
    (answered : frame.answer (.getTransferStatuses batch count) ⟨some R101.ok, writes, [call]⟩ =
      some answer)
    (succeeded : objects.succeed describes frame.reads reply
      (.getTransferStatuses frame.engine (.ofNat batch) count) = some objects') :
    shown.Follows describes answer (.getTransferStatuses batch count) objects' := by
  simp only [EngineObjects.succeed, Option.bind_eq_bind, Option.bind_eq_some_iff,
    Option.guard_eq_some', Option.pure_def, Option.some.injEq,
    UInt64.toNat_ofNat_of_lt' small] at succeeded
  obtain ⟨requests, held, _, sameCount, rfl⟩ := succeeded
  have held' : shown.batches.get? batch = some (requests.map Native.Request.opcode) := by
    rw [← represents.batches, held, Option.map_some]
  have filled_ : answer.statuses.length = count := by
    obtain rfl := Option.some.inj answered
    exact (length_filled _ _ _).trans List.length_replicate
  refine ⟨_, ?_, .live represents⟩
  simp [CEngine.succeed, held', sameCount, filled_]

theorem Represents.succeed_freeBatch (represents : Represents objects shown) {batch : Handle}
    (small : batch < 2 ^ 64)
    (succeeded : objects.succeed describes frame.reads reply
      (.freeBatch frame.engine (.ofNat batch)) = some objects') :
    shown.Follows describes answer (.freeBatch batch) objects' := by
  simp only [EngineObjects.succeed, Option.bind_eq_bind, Option.bind_eq_some_iff,
    Option.guard_eq_some', Option.pure_def, Option.some.injEq,
    UInt64.toNat_ofNat_of_lt' small] at succeeded
  obtain ⟨_, held, rfl⟩ := succeeded
  have held' : (shown.batches.get? batch).isSome = true := by
    rwa [← represents.batches, Option.isSome_map]
  refine ⟨_, ?_, .live (represents.free batch)⟩
  simp [CEngine.succeed, held']

/-- An operation that succeeded as its contract allows is a call that succeeded as the header
allows. -/
theorem Represents.succeed (represents : Represents objects shown) {function : CCall}
    (passes : function.Passes frame) (decodes : function.Decodes frame call)
    (committed : function.Committed frame reply writes)
    (answered : frame.answer function ⟨some R101.ok, writes, [call]⟩ = some answer)
    (succeeded : objects.succeed describes frame.reads reply call = some objects') :
    shown.Follows describes answer function objects' := by
  cases decodes with
  | registerLocalMemory =>
      exact represents.succeed_registerLocalMemory passes committed answered succeeded
  | deregisterLocalMemory => exact represents.succeed_deregisterLocalMemory passes succeeded
  | importRemoteMemory =>
      exact represents.succeed_importRemoteMemory passes committed answered succeeded
  | removeRemoteMemory => exact represents.succeed_removeRemoteMemory passes succeeded
  | createPeer => exact represents.succeed_createPeer committed answered succeeded
  | connectPeer => exact represents.succeed_connectPeer passes succeeded
  | destroyPeer => exact represents.succeed_destroyPeer passes succeeded
  | submitTransfer nonempty decoded =>
      exact represents.succeed_submitTransfer nonempty decoded committed answered succeeded
  | getTransferStatuses =>
      exact represents.succeed_getTransferStatuses passes.1 answered succeeded
  | freeBatch => exact represents.succeed_freeBatch passes succeeded
  | destroyEngine =>
      obtain rfl := Option.some.inj succeeded
      exact ⟨none, rfl, .gone⟩

end Calls

section Accept

variable {Region : Type} [DecidableEq Region] {objects : EngineObjects Region}
  {shown : CEngine Region} {describes : Bytes → Option Region}

/-- Only one function asks for the end of the engine. -/
theorem CCall.Decodes.ne_destroy {frame : Frame} {function : CCall} {call : EngineCall}
    (decodes : function.Decodes frame call) (notDestroy : function ≠ .destroyEngine)
    (engine : UInt64) : call ≠ .destroy engine := by
  rintro rfl
  cases decodes
  exact notDestroy rfl

/-- An operation that succeeded does to the engine what its contract says. -/
theorem EngineObjects.afterCalls_succeeded {frame : Frame} {function : CCall} {call : EngineCall}
    {replies : EngineCall → Option EngineReply} {reply : EngineReply}
    (decodes : function.Decodes frame call) (replied : replies call = some reply)
    (noError : function = .destroyEngine ∨ reply.error = none) :
    EngineObjects.afterCalls describes frame.reads replies (some objects) [call] =
      objects.succeed describes frame.reads reply call := by
  have accepted : objects.accept describes frame.reads call reply =
      objects.succeed describes frame.reads reply call := by
    rcases noError with rfl | noError
    · cases decodes
      rfl
    · unfold EngineObjects.accept
      split
      · rfl
      · rfl
      · rename_i raised
        rw [noError] at raised
        cases raised
  simp [EngineObjects.afterCalls, replied, accepted]

/-- An adapter carries the contract of the engine over to the C API. -/
theorem Course.served (represents : Represents objects shown) {frame : Frame} {function : CCall}
    {replies : EngineCall → Option EngineReply} {outcome : Outcome} {answer : Answer}
    {objects' : Option (EngineObjects Region)} (passes : function.Passes frame)
    (course : Course replies frame function outcome)
    (answered : frame.answer function outcome = some answer)
    (after : EngineObjects.afterCalls describes frame.reads replies (some objects) outcome.calls =
      some objects') :
    ∃ shown', CEngine.accept describes (some shown) function answer = some shown' ∧
      Shows objects' shown' := by
  have unchanged : answer.code ≠ R101.ok →
      CEngine.accept describes (some shown) function answer = some (some shown) := by
    intro failed
    rw [CEngine.accept]
    exact if_neg failed
  cases course with
  | @refused code writes failed =>
      obtain rfl := Option.some.inj answered
      obtain rfl := Option.some.inj after
      exact ⟨_, unchanged failed, .live represents⟩
  | aborted gone =>
      rw [Frame.answer, gone] at answered
      cases answered
  | @failed code writes call reply error decodes replied raised notDestroy notOk =>
      have accepted : objects.accept describes frame.reads call reply = some (some objects) := by
        have notDestroyed := decodes.ne_destroy notDestroy
        unfold EngineObjects.accept
        split
        · exact absurd rfl (notDestroyed _)
        · rename_i noError
          rw [raised] at noError
          cases noError
        · rfl
      simp only [EngineObjects.afterCalls, replied, accepted, Option.bind_eq_bind,
        Option.bind_some, Option.some.injEq] at after
      subst after
      obtain rfl := Option.some.inj answered
      exact ⟨_, unchanged notOk, .live represents⟩
  | @succeeded writes call reply decodes replied noError committed =>
      have isOk : answer.code = R101.ok := by
        obtain rfl := Option.some.inj answered
        rfl
      have succeeded : objects.succeed describes frame.reads reply call = some objects' := by
        rw [← EngineObjects.afterCalls_succeeded decodes replied noError]
        exact after
      obtain ⟨shown', shows, represents'⟩ :=
        represents.succeed passes decodes committed answered succeeded
      refine ⟨shown', ?_, represents'⟩
      rw [CEngine.accept]
      exact (if_pos isOk).trans shows

end Accept

end Rdma101.Abi
