/-
Module: Rdma101.Abi.Requests
Purpose: The request codec: the Python encoder, the C++ and the Rust decoder, and their agreement
  on every descriptor.
Trusted boundary: human-reviewed translation of _encode_request and of the two decode_request
Main exports: encodeRequest, Cpp.decodeRequest, Rust.decodeRequest, Request.Fits,
  request_codec_round_trip
-/
import Rdma101.Abi.Header

namespace Rdma101.Abi

/-! ### The encoder

The arguments are stored in the member that belongs to the operation, over a zeroed union, and
every integer is checked against the field that it goes to. -/

/-- `_OPCODES`. -/
def opcodes : OperationType → UInt32
  | .write => R101.write
  | .read => R101.read
  | .send => R101.send
  | .recv => R101.recv
  | .writeImm => R101.writeImm
  | .compareSwap => R101.compareSwap
  | .fetchAdd => R101.fetchAdd

/-- `values["args"]`, stored in the zero-initialised union. -/
def encodeArgs : Operation → Except Raised R101RequestArgs
  | .write remoteAddress _ | .read remoteAddress => do
      return .ofRma { remoteAddress := ← toUInt64 remoteAddress }
  | .writeImm remoteAddress immediate _ => do
      return .ofWriteImm
        { remoteAddress := ← toUInt64 remoteAddress
          immediate := ← toUInt32 immediate }
  | .compareSwap remoteAddress compare value => do
      return .ofAtomic
        { remoteAddress := ← toUInt64 remoteAddress
          compare := ← toUInt64 compare
          value := ← toUInt64 value }
  | .fetchAdd remoteAddress value => do
      return .ofAtomic
        { remoteAddress := ← toUInt64 remoteAddress
          compare := 0
          value := ← toUInt64 value }
  | .send _ | .recv => return .zero

/-- `_encode_request`, with the conversion of its result to an array entry. -/
def encodeRequest (request : Request) : Except Raised R101Request := do
  return {
    opcode := opcodes request.operation.type
    flags := if request.operation.inlineData then R101.inline else 0
    peer := ← toUInt64 request.peer
    localAddress := castPointer request.localAddress
    length := ← toUInt64 request.length
    args := ← encodeArgs request.operation }

/-! ### The decoders

Both decoders read the opcode first and then only the member that it selects.  They differ in
how they are written and in nothing else, which the next section shows. -/

/-- The `switch` of the C++ `decode_request`. -/
def Cpp.decodeOperation (opcode : UInt32) (inlineData : Bool) (args : R101RequestArgs) :
    Option Native.Operation :=
  if opcode = R101.write then some (.write args.rma.remoteAddress inlineData)
  else if opcode = R101.read then some (.read args.rma.remoteAddress)
  else if opcode = R101.send then some (.send inlineData)
  else if opcode = R101.recv then some .recv
  else if opcode = R101.writeImm then
    some (.writeImm args.writeImm.remoteAddress args.writeImm.immediate inlineData)
  else if opcode = R101.compareSwap then
    some (.compareSwap args.atomic.remoteAddress args.atomic.compare args.atomic.value)
  else if opcode = R101.fetchAdd then
    some (.fetchAdd args.atomic.remoteAddress args.atomic.value)
  else none

/-- The C++ `decode_request`; `none` is the result `false`. -/
def Cpp.decodeRequest (input : R101Request) : Option Native.Request := do
  let opcode := input.opcode
  if input.flags ≠ 0 ∧ input.flags ≠ R101.inline then none
  let inlineData : Bool := input.flags = R101.inline
  let supportsInline : Bool :=
    opcode = R101.write ∨ opcode = R101.send ∨ opcode = R101.writeImm
  if inlineData ∧ ¬supportsInline then none
  let operation ← Cpp.decodeOperation opcode inlineData input.args
  return {
    operation := operation
    peer := input.peer
    localAddress := input.localAddress
    length := input.length }

/-- The `match` of the Rust `decode_request`. -/
def Rust.decodeOperation (opcode : UInt32) (inlineData : Bool) (args : R101RequestArgs) :
    Except Rust.Error Native.Operation :=
  if opcode = R101.write then .ok (.write args.rma.remoteAddress inlineData)
  else if opcode = R101.read then .ok (.read args.rma.remoteAddress)
  else if opcode = R101.send then .ok (.send inlineData)
  else if opcode = R101.recv then .ok .recv
  else if opcode = R101.writeImm then
    .ok (.writeImm args.writeImm.remoteAddress args.writeImm.immediate inlineData)
  else if opcode = R101.compareSwap then
    .ok (.compareSwap args.atomic.remoteAddress args.atomic.compare args.atomic.value)
  else if opcode = R101.fetchAdd then
    .ok (.fetchAdd args.atomic.remoteAddress args.atomic.value)
  else .error .invalid

/-- The Rust `decode_request`. -/
def Rust.decodeRequest (input : R101Request) : Except Rust.Error Native.Request := do
  if input.flags ≠ 0 ∧ input.flags ≠ R101.inline then throw .invalid
  let inlineData : Bool := input.flags = R101.inline
  let supportsInline : Bool :=
    input.opcode = R101.write ∨ input.opcode = R101.send ∨ input.opcode = R101.writeImm
  if inlineData ∧ ¬supportsInline then throw .invalid
  let operation ← Rust.decodeOperation input.opcode inlineData input.args
  return {
    peer := input.peer
    localAddress := input.localAddress
    length := input.length
    operation := operation }

/-! ### Which entries are accepted

An entry is accepted when its opcode is known and its flag, if any, is the one that the
operation has; both decoders then agree on the request. -/

/-- An entry has no flag, or the only one on an operation that has it. -/
def FlagsAllowed (opcode flags : UInt32) : Prop :=
  flags = 0 ∨
    flags = R101.inline ∧ (opcode = R101.write ∨ opcode = R101.send ∨ opcode = R101.writeImm)

/-- The request that an accepted entry stands for, once its operation is known. -/
def nativeRequest (input : R101Request) (operation : Native.Operation) : Native.Request where
  peer := input.peer
  localAddress := input.localAddress
  length := input.length
  operation := operation

theorem Cpp.decodeRequest_of_allowed {input : R101Request}
    (allowed : FlagsAllowed input.opcode input.flags) :
    Cpp.decodeRequest input =
      (Cpp.decodeOperation input.opcode (input.flags = R101.inline) input.args).map
        (nativeRequest input) := by
  rcases allowed with noFlag | ⟨isInline, supported⟩
  · have notInline : (0 : UInt32) ≠ R101.inline := by decide
    simp [Cpp.decodeRequest, noFlag, notInline, nativeRequest, Option.map_eq_bind,
      Function.comp_def]
  · simp [Cpp.decodeRequest, isInline, supported, nativeRequest, Option.map_eq_bind,
      Function.comp_def]

theorem Cpp.decodeRequest_of_not_allowed {input : R101Request}
    (refused : ¬FlagsAllowed input.opcode input.flags) : Cpp.decodeRequest input = none := by
  unfold FlagsAllowed at refused
  push Not at refused
  by_cases isInline : input.flags = R101.inline
  · have unsupported := refused.2 isInline
    simp [Cpp.decodeRequest, isInline, unsupported]
  · simp [Cpp.decodeRequest, isInline, refused.1]

/-- `ok_or(Error::Invalid)`. -/
def Rust.orInvalid {α : Type} : Option α → Except Rust.Error α
  | some value => .ok value
  | none => .error .invalid

@[simp] theorem Rust.orInvalid_some {α : Type} (value : α) :
    Rust.orInvalid (some value) = .ok value := rfl

@[simp] theorem Rust.orInvalid_none {α : Type} :
    Rust.orInvalid (none : Option α) = .error .invalid := rfl

theorem Rust.decodeOperation_eq (opcode : UInt32) (inlineData : Bool) (args : R101RequestArgs) :
    Rust.decodeOperation opcode inlineData args =
      Rust.orInvalid (Cpp.decodeOperation opcode inlineData args) := by
  unfold Rust.decodeOperation Cpp.decodeOperation
  simp only [apply_ite Rust.orInvalid, Rust.orInvalid_some, Rust.orInvalid_none]

/-- Both adapters accept the same entries, as the same requests. -/
theorem Rust.decodeRequest_eq (input : R101Request) :
    Rust.decodeRequest input = Rust.orInvalid (Cpp.decodeRequest input) := by
  by_cases allowed : FlagsAllowed input.opcode input.flags
  · rw [Cpp.decodeRequest_of_allowed allowed]
    have accepted : Rust.decodeRequest input =
        (Rust.decodeOperation input.opcode (input.flags = R101.inline) input.args).map
          (nativeRequest input) := by
      rcases allowed with noFlag | ⟨isInline, supported⟩
      · have notInline : (0 : UInt32) ≠ R101.inline := by decide
        simp [Rust.decodeRequest, noFlag, notInline]
        rfl
      · simp [Rust.decodeRequest, isInline, supported]
        rfl
    rw [accepted, Rust.decodeOperation_eq]
    cases Cpp.decodeOperation input.opcode (input.flags = R101.inline) input.args <;> rfl
  · rw [Cpp.decodeRequest_of_not_allowed allowed]
    unfold FlagsAllowed at allowed
    push Not at allowed
    by_cases isInline : input.flags = R101.inline
    · have unsupported := allowed.2 isInline
      simp [Rust.decodeRequest, isInline, unsupported]
      rfl
    · simp [Rust.decodeRequest, isInline, allowed.1]
      rfl

/-! ### Round trip

One lemma for an operation, one for a request, and the induction over the list for an array.
That the integers fit their fields is what the encoder checks, so nothing else is assumed. -/

/-- The integers of an operation fit the fields that carry them. -/
def Operation.Fits : Operation → Prop
  | .write remoteAddress _ | .read remoteAddress => 0 ≤ remoteAddress ∧ remoteAddress < 2 ^ 64
  | .send _ | .recv => True
  | .writeImm remoteAddress immediate _ =>
      (0 ≤ remoteAddress ∧ remoteAddress < 2 ^ 64) ∧ 0 ≤ immediate ∧ immediate < 2 ^ 32
  | .compareSwap remoteAddress compare value =>
      (0 ≤ remoteAddress ∧ remoteAddress < 2 ^ 64) ∧ (0 ≤ compare ∧ compare < 2 ^ 64) ∧
        0 ≤ value ∧ value < 2 ^ 64
  | .fetchAdd remoteAddress value =>
      (0 ≤ remoteAddress ∧ remoteAddress < 2 ^ 64) ∧ 0 ≤ value ∧ value < 2 ^ 64

/-- The integers of a request fit their C fields. -/
structure Request.Fits (request : Request) : Prop where
  peer : 0 ≤ request.peer ∧ request.peer < 2 ^ 64
  localAddress : 0 ≤ request.localAddress ∧ request.localAddress < 2 ^ 64
  length : 0 ≤ request.length ∧ request.length < 2 ^ 64
  operation : request.operation.Fits

theorem Operation.Fits.native {operation : Operation} (fits : operation.Fits) :
    ∃ native : Native.Operation, native.toPython = operation := by
  cases operation with
  | write remoteAddress inlineData =>
      obtain ⟨address, rfl⟩ := exists_uint64 fits.1 fits.2
      exact ⟨.write address inlineData, rfl⟩
  | read remoteAddress =>
      obtain ⟨address, rfl⟩ := exists_uint64 fits.1 fits.2
      exact ⟨.read address, rfl⟩
  | send inlineData => exact ⟨.send inlineData, rfl⟩
  | recv => exact ⟨.recv, rfl⟩
  | writeImm remoteAddress immediate inlineData =>
      obtain ⟨address, rfl⟩ := exists_uint64 fits.1.1 fits.1.2
      obtain ⟨notice, rfl⟩ := exists_uint32 fits.2.1 fits.2.2
      exact ⟨.writeImm address notice inlineData, rfl⟩
  | compareSwap remoteAddress compare value =>
      obtain ⟨address, rfl⟩ := exists_uint64 fits.1.1 fits.1.2
      obtain ⟨expected, rfl⟩ := exists_uint64 fits.2.1.1 fits.2.1.2
      obtain ⟨replacement, rfl⟩ := exists_uint64 fits.2.2.1 fits.2.2.2
      exact ⟨.compareSwap address expected replacement, rfl⟩
  | fetchAdd remoteAddress value =>
      obtain ⟨address, rfl⟩ := exists_uint64 fits.1.1 fits.1.2
      obtain ⟨increment, rfl⟩ := exists_uint64 fits.2.1 fits.2.2
      exact ⟨.fetchAdd address increment, rfl⟩

/-- A request whose integers fit has a native counterpart. -/
theorem Request.Fits.native {request : Request} (fits : request.Fits) :
    ∃ native : Native.Request, native.toPython = request := by
  obtain ⟨peer, samePeer⟩ := exists_uint64 fits.peer.1 fits.peer.2
  obtain ⟨address, sameAddress⟩ := exists_uint64 fits.localAddress.1 fits.localAddress.2
  obtain ⟨length, sameLength⟩ := exists_uint64 fits.length.1 fits.length.2
  obtain ⟨operation, sameOperation⟩ := fits.operation.native
  cases request
  subst samePeer sameAddress sameLength sameOperation
  exact ⟨⟨peer, address, length, operation⟩, rfl⟩

/-- The arguments of a native operation, as the encoder stores them. -/
def Native.Operation.args : Native.Operation → R101RequestArgs
  | .write remoteAddress _ | .read remoteAddress => .ofRma { remoteAddress := remoteAddress }
  | .writeImm remoteAddress immediate _ =>
      .ofWriteImm { remoteAddress := remoteAddress, immediate := immediate }
  | .compareSwap remoteAddress compare value =>
      .ofAtomic { remoteAddress := remoteAddress, compare := compare, value := value }
  | .fetchAdd remoteAddress value =>
      .ofAtomic { remoteAddress := remoteAddress, compare := 0, value := value }
  | .send _ | .recv => .zero

/-- The array entry of a native request. -/
def Native.Request.descriptor (request : Native.Request) : R101Request where
  opcode := opcodes request.operation.toPython.type
  flags := if request.operation.toPython.inlineData then R101.inline else 0
  peer := request.peer
  localAddress := request.localAddress
  length := request.length
  args := request.operation.args

theorem encodeArgs_toPython (operation : Native.Operation) :
    encodeArgs operation.toPython = .ok operation.args := by
  cases operation <;> simp [encodeArgs, Native.Operation.toPython, Native.Operation.args] <;> rfl

theorem encodeRequest_toPython (request : Native.Request) :
    encodeRequest request.toPython = .ok request.descriptor := by
  simp [encodeRequest, Native.Request.toPython, encodeArgs_toPython, Native.Request.descriptor]
  rfl

theorem descriptor_allowed (request : Native.Request) :
    FlagsAllowed request.descriptor.opcode request.descriptor.flags := by
  obtain ⟨peer, address, length, operation⟩ := request
  cases operation with
  | write remoteAddress inlineData =>
      cases inlineData
      · exact .inl rfl
      · exact .inr ⟨rfl, .inl rfl⟩
  | send inlineData =>
      cases inlineData
      · exact .inl rfl
      · exact .inr ⟨rfl, .inr (.inl rfl)⟩
  | writeImm remoteAddress immediate inlineData =>
      cases inlineData
      · exact .inl rfl
      · exact .inr ⟨rfl, .inr (.inr rfl)⟩
  | read | recv | compareSwap | fetchAdd => exact .inl rfl

theorem descriptor_inline (request : Native.Request) :
    decide (request.descriptor.flags = R101.inline) =
      request.operation.toPython.inlineData := by
  unfold Native.Request.descriptor
  cases request.operation.toPython.inlineData <;> rfl

/-- The member that the encoder writes is the one that the decoder reads. -/
theorem Cpp.decodeOperation_args (operation : Native.Operation) :
    Cpp.decodeOperation (opcodes operation.toPython.type) operation.toPython.inlineData
      operation.args = some operation := by
  cases operation <;>
    simp [Cpp.decodeOperation, Native.Operation.toPython, Operation.type, Operation.inlineData,
      Native.Operation.args, opcodes, R101.write, R101.read, R101.send, R101.recv,
      R101.writeImm, R101.compareSwap, R101.fetchAdd]

theorem Cpp.decodeRequest_descriptor (request : Native.Request) :
    Cpp.decodeRequest request.descriptor = some request := by
  rw [Cpp.decodeRequest_of_allowed (descriptor_allowed request), descriptor_inline]
  have decoded := Cpp.decodeOperation_args request.operation
  simp [Native.Request.descriptor, decoded, nativeRequest]

theorem Rust.decodeRequest_descriptor (request : Native.Request) :
    Rust.decodeRequest request.descriptor = .ok request := by
  rw [Rust.decodeRequest_eq, Cpp.decodeRequest_descriptor, Rust.orInvalid_some]

/-- A translation that always succeeds, element by element, succeeds on the list. -/
theorem mapM_map_eq_pure {m : Type → Type} [Monad m] [LawfulMonad m] {α β γ : Type}
    {translate : β → m γ} {source : α → β} {image : α → γ}
    (pointwise : ∀ element, translate (source element) = pure (image element)) (list : List α) :
    (list.map source).mapM translate = pure (list.map image) := by
  induction list with
  | nil => rfl
  | cons element rest inductionHypothesis =>
      rw [List.map_cons, List.mapM_cons, pointwise, inductionHypothesis, pure_bind, pure_bind,
        List.map_cons]

/-- Lists whose integers fit have a native counterpart. -/
theorem exists_natives {requests : List Request} (fits : ∀ request ∈ requests, request.Fits) :
    ∃ natives : List Native.Request, natives.map Native.Request.toPython = requests := by
  induction requests with
  | nil => exact ⟨[], rfl⟩
  | cons request rest inductionHypothesis =>
      obtain ⟨native, same⟩ := (fits request (.head rest)).native
      obtain ⟨natives, sameRest⟩ :=
        inductionHypothesis fun other member => fits other (.tail request member)
      exact ⟨native :: natives, by rw [List.map_cons, same, sameRest]⟩

/-! ### The opcodes that are remembered -/

theorem exists_of_bind_eq_ok {ε α β : Type} {first : Except ε α} {next : α → Except ε β}
    {result : β} (returned : first >>= next = .ok result) :
    ∃ value, first = .ok value ∧ next value = .ok result := by
  cases first with
  | error error => cases returned
  | ok value => exact ⟨value, rfl, returned⟩

/-- The encoder writes the opcode of the operation. -/
theorem opcode_of_encodeRequest {request : Request} {entry : R101Request}
    (encoded : encodeRequest request = .ok entry) :
    entry.opcode = opcodes request.operation.type := by
  unfold encodeRequest at encoded
  obtain ⟨peer, _, encoded⟩ := exists_of_bind_eq_ok encoded
  obtain ⟨length, _, encoded⟩ := exists_of_bind_eq_ok encoded
  obtain ⟨args, _, encoded⟩ := exists_of_bind_eq_ok encoded
  obtain rfl := Except.ok.inj encoded
  rfl

theorem opcodes_of_encodeRequests {requests : List Request} {entries : List R101Request}
    (encoded : requests.mapM encodeRequest = .ok entries) :
    entries.map R101Request.opcode =
      (requests.map fun request => request.operation.type).map opcodes := by
  induction requests generalizing entries with
  | nil =>
      obtain rfl : [] = entries := Except.ok.inj encoded
      rfl
  | cons request rest inductionHypothesis =>
      rw [List.mapM_cons] at encoded
      obtain ⟨entry, head, encoded⟩ := exists_of_bind_eq_ok encoded
      obtain ⟨tail, encodedTail, encoded⟩ := exists_of_bind_eq_ok encoded
      obtain rfl : entry :: tail = entries := Except.ok.inj encoded
      rw [List.map_cons, List.map_cons, List.map_cons, opcode_of_encodeRequest head,
        inductionHypothesis encodedTail]

/-! ### The bytes that matter

The union is 24 bytes and each operation uses some of them.  Two entries that agree on the bytes
of the selected fields decode alike, whatever the other bytes are. -/

/-- The bytes of the fields that are read of the member that the opcode selects.  FETCH_ADD
does not use `compare`. -/
def SelectedByte (opcode : UInt32) (position : Nat) : Prop :=
  if opcode = R101.write ∨ opcode = R101.read then position < 8
  else if opcode = R101.writeImm then position < 12
  else if opcode = R101.compareSwap then position < 24
  else if opcode = R101.fetchAdd then position < 8 ∨ (16 ≤ position ∧ position < 24)
  else False

theorem Cpp.decodeOperation_congr {opcode : UInt32} {inlineData : Bool}
    {first second : R101RequestArgs}
    (same : ∀ position, SelectedByte opcode position →
      first.byteAt position = second.byteAt position) :
    Cpp.decodeOperation opcode inlineData first = Cpp.decodeOperation opcode inlineData second := by
  -- One case for each opcode; the bytes of the fields it reads are selected.
  unfold Cpp.decodeOperation
  split_ifs with isWrite isRead isSend isRecv isWriteImm isCompareSwap isFetchAdd
  · subst isWrite
    have address : first.uint64 0 = second.uint64 0 := by
      apply Storage.uint64_congr
      intro position _ below
      exact same position (by simpa [SelectedByte] using below)
    rw [R101RequestArgs.rma, R101RequestArgs.rma, address]
  · subst isRead
    have address : first.uint64 0 = second.uint64 0 := by
      apply Storage.uint64_congr
      intro position _ below
      exact same position (by simpa [SelectedByte] using below)
    rw [R101RequestArgs.rma, R101RequestArgs.rma, address]
  · rfl
  · rfl
  · subst isWriteImm
    have selected : ∀ position, position < 12 → SelectedByte R101.writeImm position :=
      fun position below => by simpa [SelectedByte, isWrite, isRead] using below
    have address : first.uint64 0 = second.uint64 0 := by
      apply Storage.uint64_congr
      intro position _ below
      exact same position (selected position (by omega))
    have immediate : first.uint32 8 = second.uint32 8 := by
      apply Storage.uint32_congr
      intro position _ below
      exact same position (selected position below)
    rw [R101RequestArgs.writeImm, R101RequestArgs.writeImm, address, immediate]
  · subst isCompareSwap
    have selected : ∀ position, position < 24 → SelectedByte R101.compareSwap position :=
      fun position below => by simpa [SelectedByte, isWrite, isRead, isWriteImm] using below
    have field : ∀ offset, offset + 8 ≤ 24 → first.uint64 offset = second.uint64 offset := by
      intro offset inside
      apply Storage.uint64_congr
      intro position _ below
      exact same position (selected position (by omega))
    rw [R101RequestArgs.atomic, R101RequestArgs.atomic, field 0 (by omega), field 8 (by omega),
      field 16 (by omega)]
  · subst isFetchAdd
    have selected : ∀ position, position < 8 ∨ (16 ≤ position ∧ position < 24) →
        SelectedByte R101.fetchAdd position :=
      fun position inside => by
        simpa [SelectedByte, isWrite, isRead, isWriteImm, isCompareSwap] using inside
    have address : first.uint64 0 = second.uint64 0 := by
      apply Storage.uint64_congr
      intro position _ below
      exact same position (selected position (.inl below))
    have value : first.uint64 16 = second.uint64 16 := by
      apply Storage.uint64_congr
      intro position above below
      exact same position (selected position (.inr ⟨above, below⟩))
    simp only [R101RequestArgs.atomic, address, value]
  · rfl

/-- Bytes of the union that the opcode does not select are not read. -/
theorem Cpp.decodeRequest_congr {input : R101Request} {args : R101RequestArgs}
    (same : ∀ position, SelectedByte input.opcode position →
      args.byteAt position = input.args.byteAt position) :
    Cpp.decodeRequest { input with args := args } = Cpp.decodeRequest input := by
  by_cases allowed : FlagsAllowed input.opcode input.flags
  · have changed : Cpp.decodeRequest { input with args := args } = _ :=
      Cpp.decodeRequest_of_allowed allowed
    rw [changed, Cpp.decodeRequest_of_allowed allowed, Cpp.decodeOperation_congr same]
    rfl
  · rw [Cpp.decodeRequest_of_not_allowed allowed]
    exact Cpp.decodeRequest_of_not_allowed allowed

theorem Rust.decodeRequest_congr {input : R101Request} {args : R101RequestArgs}
    (same : ∀ position, SelectedByte input.opcode position →
      args.byteAt position = input.args.byteAt position) :
    Rust.decodeRequest { input with args := args } = Rust.decodeRequest input := by
  rw [Rust.decodeRequest_eq, Rust.decodeRequest_eq, Cpp.decodeRequest_congr same]

/-- The request codec.  Requests whose integers fit come out of both decoders as they were
given, at any length and in order; a request that a decoder accepts survives the Python encoder;
and neither decoder reads a byte of the union outside the member the opcode selects. -/
theorem request_codec_round_trip :
    (∀ requests : List Request, (∀ request ∈ requests, request.Fits) →
      ∃ entries natives, requests.mapM encodeRequest = .ok entries ∧
        entries.mapM Cpp.decodeRequest = some natives ∧
        entries.mapM Rust.decodeRequest = .ok natives ∧
        natives.map Native.Request.toPython = requests) ∧
    (∀ input native,
      Cpp.decodeRequest input = some native ∨ Rust.decodeRequest input = .ok native →
      ∃ entry, encodeRequest native.toPython = .ok entry ∧
        Cpp.decodeRequest entry = some native ∧ Rust.decodeRequest entry = .ok native) ∧
    ∀ (input : R101Request) (args : R101RequestArgs),
      (∀ position, SelectedByte input.opcode position →
        args.byteAt position = input.args.byteAt position) →
      Cpp.decodeRequest { input with args := args } = Cpp.decodeRequest input ∧
        Rust.decodeRequest { input with args := args } = Rust.decodeRequest input := by
  refine ⟨?_, ?_, ?_⟩
  · intro requests fits
    obtain ⟨natives, rfl⟩ := exists_natives fits
    refine ⟨natives.map Native.Request.descriptor, natives, ?_, ?_, ?_, rfl⟩
    · exact mapM_map_eq_pure encodeRequest_toPython natives
    · have decoded : (natives.map Native.Request.descriptor).mapM Cpp.decodeRequest =
          pure (natives.map id) := mapM_map_eq_pure Cpp.decodeRequest_descriptor natives
      rw [decoded, List.map_id]
      rfl
    · have decoded : (natives.map Native.Request.descriptor).mapM Rust.decodeRequest =
          pure (natives.map id) := mapM_map_eq_pure Rust.decodeRequest_descriptor natives
      rw [decoded, List.map_id]
      rfl
  · intro input native _
    exact ⟨native.descriptor, encodeRequest_toPython native, Cpp.decodeRequest_descriptor native,
      Rust.decodeRequest_descriptor native⟩
  · intro input args same
    exact ⟨Cpp.decodeRequest_congr same, Rust.decodeRequest_congr same⟩

/-- Two requests of two kinds, an entry of a third kind with a dirty union, and the same entry
with a clean one. -/
theorem request_codec_round_trip_mixed :
    (∃ entries natives,
      [(⟨7, 0x1000, 8, .writeImm 0x2000 0x89ABCDEF true⟩ : Request),
        ⟨7, 0x1000, 8, .fetchAdd 0x2000 0xFFEEDDCCBBAA0099⟩].mapM encodeRequest = .ok entries ∧
        entries.mapM Cpp.decodeRequest = some natives ∧
        entries.mapM Rust.decodeRequest = .ok natives ∧
        natives.map Native.Request.toPython =
          [⟨7, 0x1000, 8, .writeImm 0x2000 0x89ABCDEF true⟩,
            ⟨7, 0x1000, 8, .fetchAdd 0x2000 0xFFEEDDCCBBAA0099⟩]) ∧
    (∃ entry, encodeRequest ⟨7, 0, 0, .recv⟩ = .ok entry ∧
      Cpp.decodeRequest entry = some ⟨7, 0, 0, .recv⟩ ∧
      Rust.decodeRequest entry = .ok ⟨7, 0, 0, .recv⟩) ∧
    Cpp.decodeRequest ⟨7, R101.recv, 0, 0, 0, .zero⟩ =
      Cpp.decodeRequest ⟨7, R101.recv, 0, 0, 0, ⟨fun _ => 0xFF⟩⟩ := by
  refine ⟨request_codec_round_trip.1 _ ?_, ?_, ?_⟩
  · intro request member
    simp only [List.mem_cons, List.not_mem_nil, or_false] at member
    rcases member with rfl | rfl
    · exact ⟨by decide, by decide, by decide, by simp [Operation.Fits]⟩
    · exact ⟨by decide, by decide, by decide, by simp [Operation.Fits]⟩
  · exact request_codec_round_trip.2.1 ⟨7, R101.recv, 0, 0, 0, ⟨fun _ => 0xFF⟩⟩ ⟨7, 0, 0, .recv⟩
      (.inl (by decide))
  · have unselected : ∀ position, ¬SelectedByte R101.recv position := by
      simp [SelectedByte, R101.recv, R101.write, R101.read, R101.writeImm, R101.compareSwap,
        R101.fetchAdd]
    exact (request_codec_round_trip.2.2 ⟨7, R101.recv, 0, 0, 0, ⟨fun _ => 0xFF⟩⟩ .zero
      fun position selected => absurd selected (unselected position)).1

end Rdma101.Abi
