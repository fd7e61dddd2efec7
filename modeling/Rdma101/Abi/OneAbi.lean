/-
Module: Rdma101.Abi.OneAbi
Purpose: The C++ and the Rust adapter are one C ABI: with engines that answer alike, each call of
  the API has the same result, the same outputs and the same call of the engine; the C template
  rejects the same calls.
Trusted boundary: human-reviewed statement of when two engines answer alike
Main exports: Corresponding, adapters_implement_one_abi
-/
import Rdma101.Abi.Adapters
import Mathlib.Data.List.Forall2
import Mathlib.Data.Option.Basic

namespace Rdma101.Abi

/-! ### Engines that answer alike

The engines share nothing but their answers: one reports success as a result code and the other
as a branch of `Result`, an empty span may point anywhere, and only the meaning of a status is
compared. -/

/-- The same bytes; the data pointer of an empty array means nothing. -/
def Span.Same (first second : Span) : Prop :=
  first.size = second.size ∧ (first.size ≠ 0 → first.data = second.data)

/-- Statuses with the same content. -/
def SameContent (cpp : Native.TransferStatus Cpp.ResultCode)
    (rust : Native.TransferStatus Rust.Error) : Prop :=
  cpp.toPython? Cpp.ResultCode.errorCode? = rust.toPython? fun error => some error.errorCode

/-- The number of statuses that a query is to fill. -/
def EngineCall.statusCount : EngineCall → Nat
  | .getTransferStatuses _ _ count => count
  | _ => 0

/-- Success comes with metadata. -/
def EngineCall.exportsMetadata : EngineCall → Bool
  | .registerLocalMemory _ _ _ _ | .createPeer _ => true
  | _ => false

/-- The answers to one call have the same meaning, and metadata is not empty. -/
inductive Corresponding (call : EngineCall) : Option Cpp.Reply → Option Rust.Reply → Prop where
  | abort : Corresponding call none none
  | failed {cpp : Cpp.Reply} {rust : Rust.Reply} {error : Rust.Error}
      (code : cpp.result.errorCode? = some error.errorCode) (result : rust.result = .error error) :
      Corresponding call (some cpp) (some rust)
  | succeeded {cpp : Cpp.Reply} {rust : Rust.Reply} {value : Rust.Value}
      (code : cpp.result = .ok) (result : rust.result = .ok value)
      (handle : cpp.handle = value.handle) (metadata : cpp.metadata.Same value.metadata)
      (nonempty : call.exportsMetadata = true → cpp.metadata.size ≠ 0)
      (statuses : ∀ index < call.statusCount,
        SameContent (cpp.statuses index) (rust.statuses index)) :
      Corresponding call (some cpp) (some rust)

/-- A device is null or has a name in UTF-8. -/
def R101Call.DeviceReadable : R101Call → Prop
  | .createEngine (some config) _ => ∀ name ∈ config.device, Rust.isUtf8 name = true
  | _ => True

/-! ### The checks -/

/-- The two checks of an array accept the same arrays. -/
theorem Rust.arrayLen_eq (size alignment : Nat) (data count : UInt64) :
    Rust.arrayLen size alignment data count =
      if Cpp.validArray size alignment data count then .ok count else .error .invalid := by
  have positive : (0 < count) = ¬count = 0 := by
    rw [UInt64.lt_iff_toNat_lt, ← UInt64.toNat_inj]
    simp [Nat.pos_iff_ne_zero]
  unfold Rust.arrayLen Cpp.validArray
  simp only [positive]
  by_cases null : data = 0
  · simp [null]
  · by_cases empty : count = 0
    · simp [empty]
    · by_cases large : ptrdiffMax / size < count.toNat
      · simp [large, Nat.not_le.mpr large]
      · by_cases aligned : data.toNat % alignment = 0
        · simp [null, empty, large, aligned, Nat.not_lt.mp large]
        · simp [aligned]

/-- The two decoders of access flags accept the same flags. -/
theorem Rust.decodeAccess_eq (flags : UInt32) :
    Rust.decodeAccess flags = Rust.orInvalid (Cpp.decodeAccess flags) := by
  unfold Rust.decodeAccess Cpp.decodeAccess
  simp only [List.foldl_cons, List.foldl_nil]
  split <;> rfl

/-- The whole array is accepted by both decoders, as the same requests, or by none. -/
theorem Rust.mapM_decodeRequest (entries : List R101Request) :
    entries.mapM Rust.decodeRequest = Rust.orInvalid (entries.mapM Cpp.decodeRequest) := by
  induction entries with
  | nil => rfl
  | cons first rest inductionHypothesis =>
      rw [List.mapM_cons, List.mapM_cons, Rust.decodeRequest_eq, inductionHypothesis]
      cases Cpp.decodeRequest first with
      | none => rfl
      | some request => cases rest.mapM Cpp.decodeRequest <;> rfl

/-- Errors of the same name have the same code. -/
theorem encode_alike {code : Cpp.ResultCode} {error : Rust.Error}
    (same : code.errorCode? = some error.errorCode) :
    Cpp.encodeResult code = Rust.encodeError error := by
  cases code <;> cases error <;> first | rfl | cases same

/-- A native receive result is determined by its content. -/
theorem receive_alike {first second : Native.ReceiveResult}
    (same : first.toPython = second.toPython) : first = second := by
  cases first <;> cases second <;>
    simp_all [Native.ReceiveResult.toPython, UInt64.toNat_inj, UInt32.toNat_inj]

/-- Statuses with the same content have the same entry; C++ does not abort on one that Rust has. -/
theorem encodeStatus_alike {cpp : Native.TransferStatus Cpp.ResultCode}
    {rust : Native.TransferStatus Rust.Error} (same : SameContent cpp rust) :
    Cpp.encodeStatus cpp = some (Rust.encodeStatus rust) := by
  cases cpp with
  | pending =>
      cases rust with
      | pending => rfl
      | completed | failed => cases same
  | completed receive =>
      cases rust with
      | completed receive' =>
          have content : receive.map Native.ReceiveResult.toPython =
              receive'.map Native.ReceiveResult.toPython :=
            (TransferStatus.completed.inj (Option.some.inj same))
          obtain rfl : receive = receive' :=
            Option.map_injective (fun _ _ => receive_alike) content
          rfl
      | pending | failed => cases same
  | failed code =>
      cases rust with
      | failed error =>
          obtain ⟨name, named, failed⟩ := Option.map_eq_some_iff.mp same
          obtain rfl := TransferStatus.failed.inj failed
          have notOk : code ≠ .ok := by
            rintro rfl
            cases named
          rw [Cpp.encodeStatus, if_neg notOk, encode_alike named]
          rfl
      | pending =>
          obtain ⟨name, named, failed⟩ := Option.map_eq_some_iff.mp same
          cases failed
      | completed receive =>
          obtain ⟨name, named, failed⟩ := Option.map_eq_some_iff.mp same
          cases failed

/-- The loop of C++ writes what the one of Rust writes. -/
theorem commitStatuses_alike (array : UInt64) {cpp : List (Native.TransferStatus Cpp.ResultCode)}
    {rust : List (Native.TransferStatus Rust.Error)} (same : List.Forall₂ SameContent cpp rust)
    (index : Nat) :
    Cpp.commitStatuses array index cpp = (some R101.ok,
      (rust.zipIdx index).map fun (status, index) =>
        .status array index (Rust.encodeStatus status)) := by
  induction same generalizing index with
  | nil => rfl
  | cons head _ inductionHypothesis =>
      rw [Cpp.commitStatuses, encodeStatus_alike head, List.zipIdx_cons, List.map_cons]
      simp only [inductionHypothesis]

/-- Arrays that are alike at every index. -/
theorem contents_alike {α β : Type} {related : α → β → Prop} {first : Nat → α} {second : Nat → β}
    {count : Nat} (same : ∀ index < count, related (first index) (second index)) :
    List.Forall₂ related (contents first count) (contents second count) := by
  refine List.forall₂_map_left_iff.mpr (List.forall₂_map_right_iff.mpr
    (List.forall₂_same.mpr fun index member => ?_))
  exact same index (List.mem_range.mp member)

/-! ### Behind the checks

After all checks, both adapters call their engine once and commit.  This is the only place where
the correspondence of the engines is used. -/

section Enter

variable {cpp : Cpp.Engine} {rust : Rust.Engine} {call : EngineCall}

/-- Once the engine is called, what is committed is the same. -/
theorem enter_alike {commit : UInt64 → Span → List Write} (cleared : List Write)
    (corresponding : Corresponding call (cpp call) (rust call))
    (independent : call.exportsMetadata = true ∨
      ∀ handle span span', commit handle span = commit handle span') :
    Cpp.enter cpp call cleared commit = Rust.enter rust (.ok call) cleared commit := by
  simp only [Cpp.enter, Rust.enter]
  generalize cpp call = first at corresponding
  generalize rust call = second at corresponding
  cases corresponding with
  | abort => rfl
  | @failed reply _ error code result =>
      have notOk : reply.result ≠ .ok := by
        intro isOk
        rw [isOk] at code
        cases code
      simp only [result, if_neg notOk, List.append_nil, encode_alike code]
  | @succeeded reply _ value code result handle metadata nonempty _ =>
      have committed : commit reply.handle reply.metadata =
          commit value.handle value.metadata := by
        rw [handle]
        rcases independent with exports | independent
        · obtain ⟨size, data⟩ := metadata
          have data' := data (nonempty exports)
          have span : reply.metadata = ⟨value.metadata.data, value.metadata.size⟩ := by
            rw [← data', ← size]
          rw [span]
        · exact independent _ _ _
      simp only [result, code, if_true, committed]
      rfl

end Enter

/-! ### One function after the other

What is left for each function is that its checks, although in another order and partly inside a
closure, reject the same calls with the same code. -/

section Functions

variable {cpp : Cpp.Engine} {rust : Rust.Engine} {cppAllocates rustAllocates : Nat → Bool}
  (corresponding : ∀ call, Corresponding call (cpp call) (rust call))

include corresponding

/-- The device name must be UTF-8, which only Rust checks. -/
theorem createEngine_alike (allocated : ∀ count, cppAllocates count = true)
    (allocated' : ∀ count, rustAllocates count = true) (config : Option R101Config)
    (engine : UInt64) (readable : R101Call.DeviceReadable (.createEngine config engine)) :
    Cpp.createEngine cppAllocates cpp config engine =
      Rust.createEngine rustAllocates rust config engine := by
  have same : ∀ config : Config,
      Cpp.enter cpp (.create config) (clear [engine]) (commitHandle engine) =
        Rust.enter rust (.ok (.create config)) (clear [engine]) (commitHandle engine) :=
    fun config => enter_alike _ (corresponding _) (.inr fun _ _ _ => rfl)
  unfold Cpp.createEngine Rust.createEngine
  split
  · rfl
  · cases config with
    | none => rfl
    | some config =>
        obtain ⟨version, port, gidIndex, device⟩ := config
        simp only [Rust.decodeConfig]
        by_cases known : version = R101.abiVersion
        · cases device with
          | none =>
              simp only [known, ne_eq, not_true_eq_false, if_false, Option.map_none, reduceCtorEq]
              exact same _
          | some name =>
              have text : Rust.isUtf8 name = true := readable name rfl
              simp only [known, text, allocated, allocated', ne_eq, not_true_eq_false, if_false,
                Option.map_some, Option.some.injEq, reduceCtorEq]
              exact same _
        · simp only [known, ne_eq, not_false_eq_true, if_true]
          rfl

/-- A null engine is not destroyed. -/
theorem destroyEngine_alike (engine : UInt64) :
    Cpp.destroyEngine cpp engine = Rust.destroyEngine rust engine := by
  have answers := corresponding (.destroy engine)
  unfold Cpp.destroyEngine Rust.destroyEngine
  generalize cpp (.destroy engine) = first at answers
  generalize rust (.destroy engine) = second at answers
  cases answers <;> rfl

/-- Both check the range and then the flags. -/
theorem registerLocalMemory_alike (engine address length : UInt64) (access : UInt32)
    (memory metadata metadataSize : UInt64) :
    Cpp.registerLocalMemory cpp engine address length access memory metadata metadataSize =
      Rust.registerLocalMemory rust engine address length access memory metadata metadataSize := by
  unfold Cpp.registerLocalMemory Rust.registerLocalMemory
  split
  · rfl
  · rw [Rust.arrayLen_eq, Rust.engineMut, Rust.decodeAccess_eq]
    cases Cpp.validArray 1 1 address length with
    | false =>
        rw [if_pos (.inr rfl)]
        rfl
    | true =>
        by_cases null : engine = 0
        · rw [if_pos (.inl null), if_pos null]
          rfl
        · simp only [null, Bool.true_eq_false, or_self, if_false]
          cases Cpp.decodeAccess access with
          | none => rfl
          | some access => exact enter_alike _ (corresponding _) (.inl rfl)

/-- The functions that take one more handle, and have no outputs. -/
theorem handle_alike (engine handle : UInt64) (call : UInt64 → EngineCall) :
    (if engine = 0 ∨ handle = 0 then .early R101.invalid []
      else Cpp.enter cpp (call engine) [] commitNothing) =
    if handle = 0 then .early R101.invalid []
    else Rust.enter rust ((Rust.engineMut engine).map call) [] commitNothing := by
  by_cases noHandle : handle = 0
  · simp only [noHandle, or_true, if_true]
  · by_cases null : engine = 0
    · simp only [null, noHandle, true_or, if_true, if_false, Rust.engineMut]
      rfl
    · simp only [null, noHandle, or_self, if_false, Rust.engineMut]
      exact enter_alike _ (corresponding _) (.inr fun _ _ _ => rfl)

/-- The functions that take a peer and its metadata. -/
theorem span_alike (cleared : List Write) {commit : UInt64 → Span → List Write}
    (independent : ∀ handle span span', commit handle span = commit handle span')
    (engine peer metadata metadataSize : UInt64) (call : UInt64 → Span → EngineCall) :
    (if engine = 0 ∨ peer = 0 ∨ Cpp.validArray 1 1 metadata metadataSize = false then
        .early R101.invalid cleared
      else Cpp.enter cpp (call engine ⟨metadata, metadataSize⟩) cleared commit) =
    if peer = 0 then .early R101.invalid cleared
    else
      Rust.enter rust (do
        let size ← Rust.arrayLen 1 1 metadata metadataSize
        let engine ← Rust.engineMut engine
        return call engine ⟨metadata, size⟩) cleared commit := by
  by_cases noPeer : peer = 0
  · rw [if_pos (.inr (.inl noPeer)), if_pos noPeer]
  · rw [if_neg noPeer, Rust.arrayLen_eq, Rust.engineMut]
    cases Cpp.validArray 1 1 metadata metadataSize with
    | false =>
        rw [if_pos (.inr (.inr rfl))]
        rfl
    | true =>
        by_cases null : engine = 0
        · rw [if_pos (.inl null), if_pos null]
          rfl
        · simp only [null, noPeer, Bool.true_eq_false, or_self, if_false]
          exact enter_alike _ (corresponding _) (.inr independent)

/-- C++ checks the arguments at once, and Rust checks the bytes inside its closure. -/
theorem importRemoteMemory_alike (engine peer metadata metadataSize remoteMemory : UInt64) :
    Cpp.importRemoteMemory cpp engine peer metadata metadataSize remoteMemory =
      Rust.importRemoteMemory rust engine peer metadata metadataSize remoteMemory := by
  unfold Cpp.importRemoteMemory Rust.importRemoteMemory
  split
  · rfl
  · exact span_alike corresponding _ (fun _ _ _ => rfl) engine peer metadata metadataSize
      fun engine => .importRemoteMemory engine peer

/-- Besides the outputs only the engine is checked. -/
theorem createPeer_alike (engine peer metadata metadataSize : UInt64) :
    Cpp.createPeer cpp engine peer metadata metadataSize =
      Rust.createPeer rust engine peer metadata metadataSize := by
  unfold Cpp.createPeer Rust.createPeer
  split
  · rfl
  · rw [Rust.engineMut]
    split
    · rfl
    · exact enter_alike _ (corresponding _) (.inl rfl)

theorem connectPeer_alike (engine peer metadata metadataSize : UInt64) :
    Cpp.connectPeer cpp engine peer metadata metadataSize =
      Rust.connectPeer rust engine peer metadata metadataSize :=
  span_alike corresponding [] (fun _ _ _ => rfl) engine peer metadata metadataSize
    fun engine => .connectPeer engine peer

/-- With memory at hand, both decode the whole array before they call the engine. -/
theorem submitTransfer_alike (allocated : ∀ count, cppAllocates count = true)
    (allocated' : ∀ count, rustAllocates count = true) (engine requests : UInt64)
    (entries : Nat → R101Request) (count batch : UInt64) :
    Cpp.submitTransfer cppAllocates cpp engine requests entries count batch =
      Rust.submitTransfer rustAllocates rust engine requests entries count batch := by
  unfold Cpp.submitTransfer Rust.submitTransfer
  split
  · rfl
  · rw [Rust.arrayLen_eq, Rust.engineMut]
    cases Cpp.validArray 56 8 requests count with
    | false =>
        rw [if_pos (.inr rfl)]
        rfl
    | true =>
        by_cases null : engine = 0
        · rw [if_pos (.inl null), if_pos null]
          rfl
        · simp only [null, Bool.true_eq_false, or_self, if_false, allocated, allocated']
          have prepared : (do
              let requests ← (contents entries count.toNat).mapM Rust.decodeRequest
              return .submitTransfer engine requests : Except Rust.Error EngineCall) =
              (Rust.orInvalid ((contents entries count.toNat).mapM Cpp.decodeRequest)).map
                (.submitTransfer engine) := by
            rw [← Rust.mapM_decodeRequest]
            rfl
          change _ = Rust.enter rust (do
              let requests ← (contents entries count.toNat).mapM Rust.decodeRequest
              return .submitTransfer engine requests) _ _
          rw [prepared]
          cases (contents entries count.toNat).mapM Cpp.decodeRequest with
          | none => rfl
          | some requests => exact enter_alike _ (corresponding _) (.inr fun _ _ _ => rfl)

/-- The loops that write the entries differ, and write the same. -/
theorem getTransferStatuses_alike (allocated : ∀ count, cppAllocates count = true)
    (allocated' : ∀ count, rustAllocates count = true)
    (engine batch statuses count : UInt64) :
    Cpp.getTransferStatuses cppAllocates cpp engine batch statuses count =
      Rust.getTransferStatuses rustAllocates rust engine batch statuses count := by
  unfold Cpp.getTransferStatuses Rust.getTransferStatuses
  rw [Rust.arrayLen_eq, Rust.engineMut]
  by_cases noBatch : batch = 0
  · rw [if_pos (.inr (.inl noBatch)), if_pos noBatch]
  · cases Cpp.validArray 24 8 statuses count with
    | false =>
        rw [if_pos (.inr (.inr rfl)), if_neg noBatch]
        rfl
    | true =>
        by_cases null : engine = 0
        · rw [if_pos (.inl null), if_neg noBatch, if_pos null]
          rfl
        · simp only [null, noBatch, Bool.true_eq_false, or_self, if_false, allocated, allocated']
          have answers := corresponding (.getTransferStatuses engine batch count.toNat)
          simp only [Bind.bind, Except.bind, Pure.pure, Except.pure, if_true]
          generalize cpp (.getTransferStatuses engine batch count.toNat) = first at answers
          generalize rust (.getTransferStatuses engine batch count.toNat) = second at answers
          cases answers with
          | abort => rfl
          | @failed reply _ error code result =>
              have notOk : reply.result ≠ .ok := by
                intro isOk
                rw [isOk] at code
                cases code
              simp only [result, if_pos notOk, encode_alike code]
          | @succeeded reply reply' value code result _ _ _ filled =>
              have committed := commitStatuses_alike statuses (contents_alike filled) 0
              simp only [EngineCall.statusCount] at committed
              simp only [result, code, ne_eq, not_true_eq_false, if_false, committed]

/-- Each call of the API has the same outcome with both adapters. -/
theorem run_alike (allocated : ∀ count, cppAllocates count = true)
    (allocated' : ∀ count, rustAllocates count = true) (call : R101Call)
    (readable : call.DeviceReadable) :
    Cpp.run cppAllocates cpp call = Rust.run rustAllocates rust call := by
  cases call with
  | createEngine config engine =>
      exact createEngine_alike corresponding allocated allocated' config engine readable
  | destroyEngine engine =>
      exact destroyEngine_alike corresponding engine
  | registerLocalMemory engine address length access memory metadata metadataSize =>
      exact registerLocalMemory_alike corresponding engine address length access memory metadata
        metadataSize
  | deregisterLocalMemory engine memory =>
      exact handle_alike corresponding engine memory (.deregisterLocalMemory · memory)
  | importRemoteMemory engine peer metadata metadataSize remoteMemory =>
      exact importRemoteMemory_alike corresponding engine peer metadata metadataSize remoteMemory
  | removeRemoteMemory engine remoteMemory =>
      exact handle_alike corresponding engine remoteMemory (.removeRemoteMemory · remoteMemory)
  | createPeer engine peer metadata metadataSize =>
      exact createPeer_alike corresponding engine peer metadata metadataSize
  | connectPeer engine peer metadata metadataSize =>
      exact connectPeer_alike corresponding engine peer metadata metadataSize
  | destroyPeer engine peer => exact handle_alike corresponding engine peer (.destroyPeer · peer)
  | submitTransfer engine requests entries count batch =>
      exact submitTransfer_alike corresponding allocated allocated' engine requests entries count
        batch
  | getTransferStatuses engine batch statuses count =>
      exact getTransferStatuses_alike corresponding allocated allocated' engine batch statuses count
  | freeBatch engine batch => exact handle_alike corresponding engine batch (.freeBatch · batch)

end Functions

/-! ### The template

The template has no engine, so only rejections are compared.  It looks at the access flags of a
registration together with the other arguments, and the adapters only behind them. -/

section Template

variable {cpp : Cpp.Engine} {cppAllocates : Nat → Bool} {writes : List Write}

theorem C.validArray_eq (data count : UInt64) (size alignment : Nat) :
    C.validArray data count size alignment = Cpp.validArray size alignment data count := rfl

/-- The opcodes that the decoders know. -/
theorem Cpp.decodeOperation_isSome (opcode : UInt32) (inlineData : Bool) (args : R101RequestArgs) :
    (Cpp.decodeOperation opcode inlineData args).isSome = decide (opcode ∈ [R101.write, R101.read,
      R101.send, R101.recv, R101.writeImm, R101.compareSwap, R101.fetchAdd]) := by
  unfold Cpp.decodeOperation
  simp only [List.mem_cons, List.not_mem_nil, or_false, Bool.decide_or]
  repeat' split
  all_goals simp_all

/-- The loop of the template passes the requests that the adapters decode. -/
theorem C.passes_eq (request : R101Request) :
    C.passes request = (Cpp.decodeRequest request).isSome := by
  by_cases allowed : FlagsAllowed request.opcode request.flags
  · rw [Cpp.decodeRequest_of_allowed allowed, Option.isSome_map, Cpp.decodeOperation_isSome]
    unfold C.passes
    rcases allowed with noFlag | ⟨isInline, supported⟩
    · have notInline : (0 : UInt32) ≠ R101.inline := by decide
      rw [if_neg (fun refused => refused.1 noFlag),
        if_neg (fun refused => notInline (noFlag.symm.trans refused.1))]
    · rw [if_neg (fun refused => refused.2 isInline), if_neg]
      rintro ⟨-, notWrite, notSend, notImm⟩
      rcases supported with isWrite | isSend | isImm
      · exact notWrite isWrite
      · exact notSend isSend
      · exact notImm isImm
  · rw [Cpp.decodeRequest_of_not_allowed allowed]
    unfold FlagsAllowed at allowed
    push Not at allowed
    unfold C.passes
    by_cases isInline : request.flags = R101.inline
    · rw [if_neg (fun refused => refused.2 isInline), if_pos ⟨isInline, allowed.2 isInline⟩]
      rfl
    · rw [if_pos ⟨allowed.1, isInline⟩]
      rfl

/-- The template passes an array when the adapters decode it. -/
theorem all_passes (entries : List R101Request) :
    entries.all C.passes = (entries.mapM Cpp.decodeRequest).isSome := by
  induction entries with
  | nil => rfl
  | cons first rest inductionHypothesis =>
      rw [List.all_cons, List.mapM_cons, C.passes_eq, inductionHypothesis]
      cases Cpp.decodeRequest first with
      | none => rfl
      | some request => cases rest.mapM Cpp.decodeRequest <;> rfl

/-- A call that reached the engine is no early return. -/
theorem Cpp.enter_ne_early (call : EngineCall) (cleared : List Write)
    (commit : UInt64 → Span → List Write) (result : Int32) :
    Cpp.enter cpp call cleared commit ≠ .early result writes := by
  unfold Cpp.enter
  cases cpp call <;> exact fun same => absurd (congrArg Outcome.calls same) (List.cons_ne_nil _ _)

theorem unimplemented_ne_invalid (cleared : List Write) :
    Outcome.early R101.unimplemented cleared ≠ .early R101.invalid writes := by
  have differ : some R101.unimplemented ≠ some R101.invalid := by decide
  exact fun same => differ (congrArg Outcome.result same)

/-- A check that both have. -/
theorem rejects_alike {rejected : Prop} [Decidable rejected] {early template adapter : Outcome}
    (later : ¬rejected → (template = .early R101.invalid writes ↔
      adapter = .early R101.invalid writes)) :
    (if rejected then early else template) = .early R101.invalid writes ↔
      (if rejected then early else adapter) = .early R101.invalid writes := by
  by_cases refused : rejected
  · rw [if_pos refused, if_pos refused]
  · rw [if_neg refused, if_neg refused]
    exact later refused

/-- What is left after all checks. -/
theorem accepts_alike (call : EngineCall) (cleared cleared' : List Write)
    (commit : UInt64 → Span → List Write) :
    Outcome.early R101.unimplemented cleared = .early R101.invalid writes ↔
      Cpp.enter cpp call cleared' commit = .early R101.invalid writes :=
  iff_of_false (unimplemented_ne_invalid cleared)
    (Cpp.enter_ne_early call cleared' commit R101.invalid)

/-- The access flags that have no meaning. -/
def unknownAccess (flags : UInt32) : UInt32 :=
  flags &&& ~~~(R101.localWrite ||| R101.remoteWrite ||| R101.remoteRead ||| R101.remoteAtomic)

theorem Cpp.decodeAccess_of_unknown {flags : UInt32} (unknown : unknownAccess flags ≠ 0) :
    Cpp.decodeAccess flags = none := if_pos unknown

theorem Cpp.decodeAccess_of_known {flags : UInt32} (known : ¬unknownAccess flags ≠ 0) :
    ∃ access, Cpp.decodeAccess flags = some access := ⟨_, if_neg known⟩

/-- The check of the access flags comes later in the adapter. -/
theorem registration_alike (engine address length : UInt64) (access : UInt32)
    (memory metadata metadataSize : UInt64) :
    C.registerLocalMemory engine address length access memory metadata metadataSize =
        .early R101.invalid writes ↔
      Cpp.registerLocalMemory cpp engine address length access memory metadata metadataSize =
        .early R101.invalid writes := by
  apply rejects_alike
  intro _
  dsimp only
  rw [C.validArray_eq]
  by_cases rejected : engine = 0 ∨ Cpp.validArray 1 1 address length = false
  · rw [if_pos rejected, if_pos (or_assoc.mp (.inl rejected))]
  · rw [if_neg rejected]
    by_cases unknown : unknownAccess access ≠ 0
    · rw [if_pos (.inr (.inr unknown)), Cpp.decodeAccess_of_unknown unknown]
    · obtain ⟨native, decoded⟩ := Cpp.decodeAccess_of_known unknown
      have accepted := fun refused => (or_assoc.mpr refused).elim rejected unknown
      rw [unknownAccess] at accepted
      rw [if_neg accepted, decoded]
      exact accepts_alike _ _ _ _

/-- The template rejects the calls that the adapters reject before they call their engine. -/
theorem template_alike (allocated : ∀ count, cppAllocates count = true) (call : R101Call) :
    C.run call = .early R101.invalid writes ↔
      Cpp.run cppAllocates cpp call = .early R101.invalid writes := by
  cases call with
  | createEngine config engine =>
      apply rejects_alike
      intro _
      cases config with
      | none => rfl
      | some config =>
          apply rejects_alike
          intro _
          have enough : (config.device.map fun name => cppAllocates name.length) ≠ some false := by
            cases config.device <;> simp [allocated]
          rw [if_neg enough]
          exact accepts_alike _ _ _ _
  | destroyEngine engine =>
      refine rejects_alike fun _ => iff_of_false (unimplemented_ne_invalid []) fun same => ?_
      exact absurd (congrArg Outcome.calls same) (List.cons_ne_nil _ _)
  | registerLocalMemory engine address length access memory metadata metadataSize =>
      exact registration_alike engine address length access memory metadata metadataSize
  | deregisterLocalMemory engine memory => exact rejects_alike fun _ => accepts_alike _ _ _ _
  | importRemoteMemory engine peer metadata metadataSize remoteMemory =>
      exact rejects_alike fun _ => rejects_alike fun _ => accepts_alike _ _ _ _
  | removeRemoteMemory engine remoteMemory =>
      exact rejects_alike fun _ => accepts_alike _ _ _ _
  | createPeer engine peer metadata metadataSize =>
      exact rejects_alike fun _ => rejects_alike fun _ => accepts_alike _ _ _ _
  | connectPeer engine peer metadata metadataSize =>
      exact rejects_alike fun _ => accepts_alike _ _ _ _
  | destroyPeer engine peer => exact rejects_alike fun _ => accepts_alike _ _ _ _
  | submitTransfer engine requests entries count batch =>
      refine rejects_alike fun _ => rejects_alike fun _ => ?_
      rw [allocated, if_neg (Bool.false_ne_true ∘ Eq.symm), all_passes]
      cases (contents entries count.toNat).mapM Cpp.decodeRequest with
      | none => rfl
      | some requests => exact accepts_alike _ _ _ _
  | getTransferStatuses engine batch statuses count =>
      refine rejects_alike fun _ => iff_of_false (unimplemented_ne_invalid []) fun same => ?_
      rw [allocated, if_neg (Bool.false_ne_true ∘ Eq.symm)] at same
      dsimp only at same
      cases replied : cpp (.getTransferStatuses engine batch count.toNat) with
      | none =>
          rw [replied] at same
          cases same
      | some reply =>
          rw [replied] at same
          dsimp only at same
          split at same <;> exact absurd (congrArg Outcome.calls same) (List.cons_ne_nil _ _)
  | freeBatch engine batch => exact rejects_alike fun _ => accepts_alike _ _ _ _

end Template

/-- The adapters implement one C ABI.  With engines that answer corresponding calls with
corresponding results, every call of the API has the same result and the same outputs with the C++
and with the Rust adapter, and makes the same call of the engine or none.  The checks of the C
template return the code for an invalid argument, with the same outputs cleared, on exactly the
calls that the adapters reject so before they call the engine. -/
theorem adapters_implement_one_abi {cpp : Cpp.Engine} {rust : Rust.Engine}
    {cppAllocates rustAllocates : Nat → Bool}
    (corresponding : ∀ call, Corresponding call (cpp call) (rust call))
    (allocated : ∀ count, cppAllocates count = true)
    (allocated' : ∀ count, rustAllocates count = true) (call : R101Call)
    (readable : call.DeviceReadable) :
    Cpp.run cppAllocates cpp call = Rust.run rustAllocates rust call ∧
    ∀ writes, C.run call = ⟨some R101.invalid, writes, []⟩ ↔
      Cpp.run cppAllocates cpp call = ⟨some R101.invalid, writes, []⟩ :=
  ⟨run_alike corresponding allocated allocated' call readable,
    fun _ => template_alike allocated call⟩

def sampleCppEngine : Cpp.Engine := fun _ => some ⟨.ok, 7, ⟨4096, 3⟩, fun _ => .pending⟩

def sampleRustEngine : Rust.Engine := fun _ => some ⟨.ok ⟨7, ⟨4096, 3⟩⟩, fun _ => .pending⟩

/-- A receive, then a request with an opcode that does not exist. -/
def sampleEntries (index : Nat) : R101Request where
  peer := 3
  opcode := if index = 0 then R101.recv else 255
  flags := 0
  localAddress := 8192
  length := 16
  args := .zero

theorem adapters_implement_one_abi_sample :
    Rust.run (fun _ => true) sampleRustEngine (.submitTransfer 1 64 sampleEntries 1 32) =
      ⟨some R101.ok, [.word 32 0, .word 32 7], [.submitTransfer 1 [⟨3, 8192, 16, .recv⟩]]⟩ ∧
    C.run (.submitTransfer 1 64 sampleEntries 2 32) =
      ⟨some R101.invalid, [.word 32 0], []⟩ := by
  have corresponding : ∀ call, Corresponding call (sampleCppEngine call) (sampleRustEngine call) :=
    fun _ => .succeeded rfl rfl rfl ⟨rfl, fun _ => rfl⟩ (fun _ => by decide) fun _ _ => rfl
  have accepted := (adapters_implement_one_abi corresponding (fun _ => rfl) (fun _ => rfl)
    (.submitTransfer 1 64 sampleEntries 1 32) trivial).1
  have rejected := (adapters_implement_one_abi corresponding (fun _ => rfl) (fun _ => rfl)
    (.submitTransfer 1 64 sampleEntries 2 32) trivial).2 [.word 32 0]
  exact ⟨accepted.symm.trans (by decide), rejected.mpr (by decide)⟩

end Rdma101.Abi
