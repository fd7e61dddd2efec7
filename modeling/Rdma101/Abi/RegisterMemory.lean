/-
Module: Rdma101.Abi.RegisterMemory
Purpose: `Engine.register_local_memory`: the native registration, then the publish of its metadata,
  and exactly when a raise leaves the engine as it was.
Trusted boundary: human-reviewed translation of Engine.register_local_memory in rdma101/engine.py
Main exports: EngineState, registerLocalMemory, Unchanged, register_all_or_nothing_iff
-/
import Rdma101.Abi.Mirror
import Rdma101.Control.Publish

namespace Rdma101.Abi

/-- What the operation reads and changes: the control plane, and the adapter with its C engine. -/
structure EngineState (Region : Type) where
  control : ControlPlane := {}
  world : World Region := {}

inductive EngineError where
  | native (abrupt : Abrupt)
  | control (error : PyError)
deriving DecidableEq

/-- A local registration; its backing storage is retained until `Engine.close`. -/
structure LocalMemory where
  id : Handle
  address : Nat
  length : Nat
  storage : Memory
deriving DecidableEq

abbrev EngineM (Region : Type) := EStateM EngineError (EngineState Region)

section

variable {Region : Type} [DecidableEq Region] (describes : Bytes → Option Region)

def onNative {α : Type} (program : Native Region α) : EngineM Region α := fun state =>
  match program.run state.world with
  | .ok value world => .ok value { state with world := world }
  | .error error world => .error (.native error) { state with world := world }

def onControl {α : Type} (program : EStateM PyError (ControlPlane × Unit) α) :
    EngineM Region α := fun state =>
  match program.run (state.control, ()) with
  | .ok value (control, _) => .ok value { state with control := control }
  | .error error (control, _) => .error (.control error) { state with control := control }

/-- The control plane with another table of peers. -/
def EngineState.found (state : EngineState Region) (handled : OrderedDict String Peer) :
    ControlPlane :=
  { state.control with peers := handled }

def EngineState.isClosed (state : EngineState Region) : Bool :=
  state.control.closed || state.world.native.closed

def checkOpen : EngineM Region Unit := do
  if (← get).isClosed then
    throw (.control (.runtimeError "engine is closed"))

/-- How the call of `Changed` for a peer ends. -/
def ending (outcome : Peer → Except PyError Unit) (peer : Peer) (_ : Wire.Update) :
    EStateM PyError Unit Unit :=
  match outcome peer with
  | .ok () => pure ()
  | .error error => throw error

/-- `handled` is the table of peers when `publish` takes the state lock: handlers may have run since
the registration. -/
def registerLocalMemory (advertised : String) (handled : OrderedDict String Peer)
    (outcome : Peer → Except PyError Unit) (memory : Memory) (access : Int) (answer : Answer) :
    EngineM Region LocalMemory := do
  checkOpen
  let registration ← onNative (NativeEngine.registerLocalMemory describes memory access answer)
  modify fun state => { state with control := state.found handled }
  onControl (publish advertised registration.metadata (ending outcome))
  return { id := registration.memory, address := memory.address, length := memory.size,
           storage := memory }

/-- The result is an exception of the operation. -/
def Raises {α : Type} : EStateM.Result EngineError (EngineState Region) α → Bool
  | .ok _ _ => false
  | .error error _ => error ≠ .native .broken

/-- The live registrations, the retained buffers and the published metadata are the same. -/
def Unchanged (before after : EngineState Region) : Prop :=
  after.world.live.registrations.live.entries = before.world.live.registrations.live.entries ∧
    after.world.native.memories.entries = before.world.native.memories.entries ∧
    after.control.memoryMetadata = before.control.memoryMetadata

instance (before after : EngineState Region) : Decidable (Unchanged before after) :=
  inferInstanceAs (Decidable (_ ∧ _ ∧ _))

/-- The native registration fails: an argument does not fit its C type, or the C engine answers with
an error. -/
def Refused (memory : Memory) (access : Int) (answer : Answer) : Prop :=
  (toUInt64 memory.size).isOk = false ∨ (toUInt32 access).isOk = false ∨ answer.code ≠ R101.ok

end

/-! ### The native registration

Everything up to the lock of `publish`.  It fails in three ways: the engine is closed, a
conversion overflows, or the C engine answers with an error; none of them leaves anything
behind. -/

section Native

variable {Region : Type} {world : World Region}

/-- A conversion that succeeds goes on with its value. -/
theorem run_raising_ok {α β : Type} {computation : Except Raised α} {value : α}
    {next : α → Native Region β} (result : computation = .ok value) :
    (NativeEngine.raising computation >>= next).run world = (next value).run world := by
  rw [result]
  rfl

theorem run_raising_error {α β : Type} {computation : Except Raised α} {error : Raised}
    {next : α → Native Region β} (result : computation = .error error) :
    (NativeEngine.raising computation >>= next).run world = .error (.raised error) world := by
  rw [result]
  rfl

variable [DecidableEq Region] {describes : Bytes → Option Region} {memory : Memory} {access : Int}
  {answer : Answer}

/-- The C engine answers as its header allows. -/
def Permitted (describes : Bytes → Option Region) (world : World Region) (memory : Memory)
    (access : Int) (answer : Answer) : Prop :=
  ∀ flags, toUInt32 access = .ok flags →
    ∃ engine, CEngine.accept describes world.engine (.registerLocalMemory memory flags) answer =
      some engine

/-- The adapter turns a refusal into an exception and changes nothing. -/
theorem native_refused (mirrors : Mirrors world)
    (permitted : Permitted describes world memory access answer)
    (refused : Refused memory access answer) :
    ∃ error, (NativeEngine.registerLocalMemory describes memory access answer).run world =
      .error (.raised error) world := by
  cases size : toUInt64 memory.size with
  | error error =>
      exact ⟨error, by rw [NativeEngine.registerLocalMemory, run_raising_error size]⟩
  | ok length =>
      cases fits : toUInt32 access with
      | error error =>
          exact ⟨error, by
            rw [NativeEngine.registerLocalMemory, run_raising_ok size, run_raising_error fits]⟩
      | ok flags =>
          rw [Refused, size, fits] at refused
          have failed : answer.code ≠ R101.ok := by simpa [Except.isOk, Except.toBool] using refused
          obtain ⟨engine, accepted⟩ := permitted flags fits
          have unchanged : ({ world with engine := engine } : World Region) = world := by
            rw [Settles.accept_failed failed accepted]
          have run := Settles.run_call "register_local_memory" (mirrors.handle.symm ▸ accepted)
          obtain ⟨error, raised⟩ := Settles.check_raises "register_local_memory" failed
          rw [unchanged, raised] at run
          refine ⟨error, ?_⟩
          rw [NativeEngine.registerLocalMemory, run_raising_ok size, run_raising_ok fits]
          simp [run, NativeEngine.raising]

theorem native_returns (mirrors : Mirrors world)
    (permitted : Permitted describes world memory access answer)
    (notRefused : ¬Refused memory access answer) :
    ∃ registration after, (NativeEngine.registerLocalMemory describes memory access answer).run
      world = .ok registration after := by
  rw [Refused, not_or, not_or, not_not] at notRefused
  obtain ⟨size, fits, isOk⟩ := notRefused
  cases size' : toUInt64 memory.size with
  | error error =>
      rw [size'] at size
      exact absurd rfl size
  | ok length =>
      cases fits' : toUInt32 access with
      | error error =>
          rw [fits'] at fits
          exact absurd rfl fits
      | ok flags =>
          obtain ⟨engine, accepted⟩ := permitted flags fits'
          have run := Settles.run_call "register_local_memory" (mirrors.handle.symm ▸ accepted)
          obtain ⟨live, present, succeeded⟩ := Settles.accept_ok isOk accepted
          rw [isOk, Settles.check_ok] at run
          simp only [CEngine.succeed, Option.bind_eq_bind, Option.bind_eq_some_iff,
            Option.guard_eq_some', Option.dite_none_right_eq_some, Option.pure_def,
            Option.some.injEq] at succeeded
          obtain ⟨metadata, given, _, ⟨nonempty, _⟩, fresh, -⟩ := succeeded
          have unused : world.native.memories.get? answer.handle = none := by
            rw [mirrors.memories, Mirrors.live_eq present, fresh.get?_eq_none]
          refine ⟨⟨answer.handle, metadata⟩, ?_⟩
          rw [NativeEngine.registerLocalMemory, run_raising_ok size', run_raising_ok fits']
          simp [run, NativeEngine.raising, unused, fresh.1, given, nonempty, NativeEngine.update]

end Native

/-! ### The whole operation

Behind the registration only the calls of `Changed` can raise, and by then the buffer is
retained and the metadata is in the list.  So the operation is all or nothing exactly when it
does not get that far or every call returns. -/

section Operation

variable {Region : Type} {state : EngineState Region} {outcome : Peer → Except PyError Unit}

theorem run_onNative {α : Type} {program : Native Region α} :
    (onNative program).run state =
      match program.run state.world with
      | .ok value world => .ok value { state with world := world }
      | .error error world => .error (.native error) { state with world := world } := rfl

theorem run_onControl {α : Type} {program : EStateM PyError (ControlPlane × Unit) α} :
    (onControl program).run state =
      match program.run (state.control, ()) with
      | .ok value (control, _) => .ok value { state with control := control }
      | .error error (control, _) => .error (.control error) { state with control := control } :=
  rfl

/-- A native call of an open engine that raises. -/
theorem run_native_raised {α β : Type} (isOpen : state.isClosed = false) {program : Native Region α}
    {error : Abrupt} {world : World Region} (raised : program.run state.world = .error error world)
    (next : α → EngineM Region β) :
    (do
      checkOpen
      let value ← onNative program
      next value : EngineM Region β).run state =
      .error (.native error) { state with world := world } := by
  simp [checkOpen, isOpen, run_onNative, raised]

/-- A native call of an open engine that returns. -/
theorem run_native_returned {α β : Type} (isOpen : state.isClosed = false)
    {program : Native Region α} {value : α} {world : World Region}
    (returned : program.run state.world = .ok value world) (next : α → EngineM Region β) :
    (do
      checkOpen
      let value ← onNative program
      next value : EngineM Region β).run state =
      (next value).run { state with world := world } := by
  simp [checkOpen, isOpen, run_onNative, returned]

/-- The part of `publish` raises when its program does. -/
theorem run_published {β : Type} (state : EngineState Region) (handled : OrderedDict String Peer)
    {program : EStateM PyError (ControlPlane × Unit) Unit}
    {result : EStateM.Result PyError (ControlPlane × Unit) Unit}
    (run : program.run (state.found handled, ()) = result) (value : β) :
    ∃ result', (do
      modify fun state => { state with control := state.found handled }
      onControl program
      return value : EngineM Region β).run state = result' ∧
      Raises result' = !FanOut.isOk result ∧
      (FanOut.finalState result').control = (FanOut.finalState result).1 := by
  refine ⟨_, rfl, ?_⟩
  cases result with
  | ok _ final => simp [run_onControl, run, Raises, FanOut.isOk]
  | error error final => simp [run_onControl, run, Raises, FanOut.isOk]

/-- The loop of `publish` returns when every call does. -/
theorem run_ending {update : Peer → Wire.Update} {peers : List Peer} :
    FanOut.isOk ((peers.forM fun peer => ending outcome peer (update peer)).run ()) = true ↔
      ∀ peer ∈ peers, outcome peer = .ok () := by
  induction peers with
  | nil => simp [FanOut.isOk]
  | cons peer rest inductionHypothesis =>
      cases ends : outcome peer with
      | ok => simp_all [ending]
      | error error => simp [ending, ends, FanOut.isOk]

variable [DecidableEq Region] {describes : Bytes → Option Region} {advertised : String}
  {handled : OrderedDict String Peer} {memory : Memory} {access : Int} {answer : Answer}

theorem register_closed (isClosed : state.isClosed = true) :
    (registerLocalMemory describes advertised handled outcome memory access answer).run state =
      .error (.control (.runtimeError "engine is closed")) state := by
  simp [registerLocalMemory, checkOpen, isClosed]

theorem register_refused (isOpen : state.isClosed = false) {error : Abrupt}
    (raised : (NativeEngine.registerLocalMemory describes memory access answer).run state.world =
      .error error state.world) :
    (registerLocalMemory describes advertised handled outcome memory access answer).run state =
      .error (.native error) state :=
  run_native_raised isOpen raised _

/-- After the registration the operation raises exactly when a call does, and the metadata is in the
list in any case. -/
theorem register_registered (isOpen : state.isClosed = false) {registration : MemoryMetadata}
    {after : World Region}
    (returned : (NativeEngine.registerLocalMemory describes memory access answer).run state.world =
      .ok registration after) :
    ∃ result, (registerLocalMemory describes advertised handled outcome memory access answer).run
        state = result ∧
      (Raises result = false ↔ ∀ peer ∈ (state.found handled).readyPeers, outcome peer = .ok ()) ∧
      (FanOut.finalState result).control.memoryMetadata =
        state.control.memoryMetadata ++ [registration.metadata] := by
  have isOpen' : (state.found handled).closed = false := (Bool.or_eq_false_iff.mp isOpen).1
  have published := @run_publish _ advertised registration.metadata _ () (ending outcome) isOpen'
  obtain ⟨result, run, raises, control⟩ := run_published { state with world := after } handled
    published (⟨registration.memory, memory.address, memory.size, memory⟩ : LocalMemory)
  refine ⟨result, (run_native_returned isOpen returned _).trans run, ?_, ?_⟩
  · rw [raises, FanOut.isOk_onSecond, Bool.not_eq_false', run_ending]
  · rw [control, FanOut.finalState_onSecond]
    rfl

/-- A raise leaves the registrations, the buffers and the published metadata as they were, exactly
when the engine is closed, the native registration is refused, or every peer answers. -/
theorem register_all_or_nothing_iff
    (reached : (nativeSystem describes).Reachable (fun _ _ => True) state.world)
    (permitted : Permitted describes state.world memory access answer) :
    (Raises ((registerLocalMemory describes advertised handled outcome memory access answer).run
          state) = true →
        Unchanged state (FanOut.finalState
          ((registerLocalMemory describes advertised handled outcome memory access answer).run
            state))) ↔
      state.isClosed = true ∨ Refused memory access answer ∨
        ∀ peer ∈ (state.found handled).readyPeers, outcome peer = .ok () := by
  have mirrors := mirrors_of_reachable reached
  cases isClosed : state.isClosed with
  | true =>
      rw [register_closed isClosed]
      exact ⟨fun _ => .inl rfl, fun _ _ => ⟨rfl, rfl, rfl⟩⟩
  | false =>
      by_cases refused : Refused memory access answer
      · obtain ⟨error, raised⟩ := native_refused mirrors permitted refused
        rw [register_refused isClosed raised]
        exact ⟨fun _ => .inr (.inl refused), fun _ _ => ⟨rfl, rfl, rfl⟩⟩
      · obtain ⟨registration, after, returned⟩ := native_returns mirrors permitted refused
        obtain ⟨result, run, raises, metadata⟩ := register_registered isClosed returned
        rw [run]
        have changed : ¬Unchanged state (FanOut.finalState result) := by
          rintro ⟨-, -, same⟩
          rw [metadata] at same
          simp at same
        constructor
        · intro holds
          refine .inr (.inr (raises.mp ?_))
          exact Bool.eq_false_iff.mpr fun isRaise => changed (holds isRaise)
        · rintro (isTrue | isRefused | answered) isRaise
          · cases isTrue
          · exact absurd isRefused refused
          · rw [raises.mpr answered] at isRaise
            cases isRaise

end Operation

/-- One ready peer. -/
def sampleControl : ControlPlane where
  peers := (∅ : OrderedDict String Peer).set "beta"
    { handle := 7, endpoint := "beta", metadata := [2], connectionId := "a1",
      remoteConnectionId := "b1", state := .ready, remoteVersion := 0 }

/-- The peer was created and connected. -/
def samplePeer : List (NativeOperation × Answer) :=
  [(.createPeer, { code := 0, handle := 7, metadata := some [2] }),
    (.connectPeer 7 [3], { code := 0 })]

theorem sampleSize_positive : 0 < 64 := by decide

def sampleMemory : Memory := ⟨1, 0x1000, 64, sampleSize_positive⟩

/-- A registration of `sampleMemory`, while `beta` does not answer. -/
def sampleRegistration (answer : Answer) (world : World Bytes) :
    EStateM.Result EngineError (EngineState Bytes) LocalMemory :=
  (registerLocalMemory some "alpha" sampleControl.peers (fun _ => .error .rpcError) sampleMemory 5
    answer).run ⟨sampleControl, world⟩

/-- A registration that is refused raises and changes nothing, whatever a call of `Changed` would
give. -/
theorem register_all_or_nothing_refused : ∃ world : World Bytes,
    world.native.peers.entries = [(7, ())] ∧
    (Raises (sampleRegistration { code := R101.noMemory } world) = true →
      Unchanged ⟨sampleControl, world⟩
        (FanOut.finalState (sampleRegistration { code := R101.noMemory } world))) := by
  have computed : ∃ world : World Bytes, (nativeSystem some).Reachable (fun _ _ => True) world ∧
      (world.native.peers.entries = [(7, ())] ∧ world.engine.isSome = true) :=
    LabelledSystem.exists_reachable (.initial rfl) samplePeer (by decide)
  obtain ⟨world, reached, peers, present⟩ := computed
  obtain ⟨live, isLive⟩ := Option.isSome_iff_exists.mp present
  have permitted : Permitted some world sampleMemory 5 { code := R101.noMemory } :=
    fun flags _ => ⟨some live, by rw [isLive]; rfl⟩
  exact ⟨world, peers, (register_all_or_nothing_iff reached permitted).mpr
    (.inr (.inl (.inr (.inr (by decide)))))⟩

/-- The C engine registers the buffer, and `beta` does not answer: the operation raises, but the
buffer stays registered, and its range cannot be registered again. -/
theorem failed_publish_keeps_registration : ∃ world : World Bytes,
    (nativeSystem some).Reachable (fun _ _ => True) world ∧
    (CEngine.accept some world.engine (.registerLocalMemory sampleMemory 5)
      { code := 0, handle := 31, metadata := some [9] }).isSome = true ∧
    ¬(Raises (sampleRegistration { code := 0, handle := 31, metadata := some [9] } world) = true →
      Unchanged ⟨sampleControl, world⟩ (FanOut.finalState
        (sampleRegistration { code := 0, handle := 31, metadata := some [9] } world))) ∧
    CEngine.accept some (FanOut.finalState (sampleRegistration
        { code := 0, handle := 31, metadata := some [9] } world)).world.engine
      (.registerLocalMemory sampleMemory 5) { code := 0, handle := 32, metadata := some [10] } =
      none :=
  LabelledSystem.exists_reachable (.initial rfl) samplePeer (by decide)

end Rdma101.Abi
