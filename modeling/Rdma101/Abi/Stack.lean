/-
Module: Rdma101.Abi.Stack
Purpose: The Python adapter over the C++ or the Rust adapter over an engine of that language, as one
  system: an operation of Python makes at most one call of the C API, the adapter turns it into at
  most one call of the engine, and what comes back is read, checked and remembered.
Trusted boundary: human-reviewed composition of native_engine.py, cpp/ffi.cpp and rust/src/ffi.rs
Main exports: Language, Turn, Stack, stackSystem, NativeOperation.function, adapter_stack_serves
-/
import Rdma101.Abi.Mirror
import Rdma101.Abi.Served

namespace Rdma101.Abi

/-! ### The stack

The state has only the two ends, the tables of Python and the objects of the engine; what the C
API shows of them is found again in the proof.  A turn is one operation with everything that is
not in the program's hand: the pointers, the allocations and the replies of the engine. -/

/-- The language of an engine and its adapter. -/
inductive Language where
  | cpp
  | rust
deriving DecidableEq, Repr

namespace Language

abbrev Engine : Language → Type
  | .cpp => Cpp.Engine
  | .rust => Rust.Engine

def run (allocates : Nat → Bool) : (language : Language) → language.Engine → R101Call → Outcome
  | .cpp, native, call => Cpp.run allocates native call
  | .rust, native, call => Rust.run allocates native call

def replies : (language : Language) → language.Engine → EngineCall → Option EngineReply
  | .cpp, native => Cpp.replies native
  | .rust, native => Rust.replies native

end Language

section Function

open NativeEngine

/-- The call of the C API that an operation makes.  A method that raises before it calls makes none,
nor does the `close` of an adapter that is closed. -/
def NativeOperation.function (native : NativeEngine) : NativeOperation → Option CCall
  | .registerLocalMemory memory access => do
      let _ ← (toUInt64 memory.size).toOption
      let access ← (toUInt32 access).toOption
      return .registerLocalMemory memory access
  | .deregisterLocalMemory memory => do
      let memory ← (toHandle memory).toOption
      return .deregisterLocalMemory memory
  | .importRemoteMemory peer metadata =>
      if metadata = [] then none
      else do
        let peer ← (toHandle peer).toOption
        return .importRemoteMemory peer metadata
  | .removeRemoteMemory remoteMemory => do
      let remoteMemory ← (toHandle remoteMemory).toOption
      return .removeRemoteMemory remoteMemory
  | .createPeer => some .createPeer
  | .connectPeer peer metadata =>
      if metadata = [] then none
      else do
        let peer ← (toHandle peer).toOption
        return .connectPeer peer metadata
  | .destroyPeer peer => do
      let peer ← (toHandle peer).toOption
      return .destroyPeer peer
  | .submitTransfer requests => do
      let entries ← (requests.mapM encodeRequest).toOption
      return .submitTransfer entries
  | .getTransferStatuses batch => do
      let operations ← (item native.batches batch).toOption
      let batch ← (toHandle batch).toOption
      return .getTransferStatuses batch operations.length
  | .freeBatch batch => do
      let batch ← (toHandle batch).toOption
      return .freeBatch batch
  | .close => if native.closed then none else some .destroyEngine

end Function

instance (frame : Frame) : (function : CCall) → Decidable (function.Passes frame)
  | .registerLocalMemory _ _ | .getTransferStatuses _ _ => inferInstanceAs (Decidable (_ ∧ _))
  | .deregisterLocalMemory _ | .removeRemoteMemory _ | .destroyPeer _ | .freeBatch _ =>
      inferInstanceAs (Decidable (_ < _))
  | .importRemoteMemory _ _ | .connectPeer _ _ => inferInstanceAs (Decidable (_ ∧ _ ∧ _))
  | .submitTransfer _ => inferInstanceAs (Decidable (_ < _))
  | .createPeer | .destroyEngine => inferInstanceAs (Decidable True)

/-- An operation of the Python adapter, with the pointers that cffi uses for it, what can be
allocated, and what the engine would reply. -/
structure Turn (language : Language) where
  operation : NativeOperation
  frame : Frame
  allocates : Nat → Bool
  engine : language.Engine

/-- The Python adapter and the objects of the engine; what the C API shows of them is in between. -/
structure Stack (Region : Type) where
  world : World Region := {}
  objects : Option (EngineObjects Region) := some {}

section System

variable {Region : Type} [DecidableEq Region] (describes : Bytes → Option Region)
  {language : Language}

/-- The adapter runs a function. -/
def Stack.outcome (state : Stack Region) (turn : Turn language) (function : CCall) : Outcome :=
  language.run turn.allocates turn.engine
    (function.marshal turn.frame (!state.world.native.closed))

/-- What the Python adapter reads back, and the engine afterwards.  There is neither when the
process has aborted, or the engine has not kept its contract. -/
def Stack.reads (state : Stack Region) (turn : Turn language) :
    Option (Answer × Option (EngineObjects Region)) :=
  match turn.operation.function state.world.native with
  | none => some ({ code := R101.ok }, state.objects)
  | some function => do
      guard (function.Passes turn.frame)
      let answer ← turn.frame.answer function (state.outcome turn function)
      let objects ← EngineObjects.afterCalls describes turn.frame.reads
        (language.replies turn.engine) state.objects (state.outcome turn function).calls
      return (answer, objects)

/-- A method that returned or raised has ended; an answer that the header rules out has no
successor. -/
def Stack.finish (state : Stack Region) (turn : Turn language) (answer : Answer)
    (objects : Option (EngineObjects Region)) : Option (Stack Region) :=
  match (turn.operation.run describes answer).run state.world with
  | .ok _ after | .error (.raised _) after => some { world := after, objects := objects }
  | .error .broken _ => none

/-- The runs of the stack. -/
def stackSystem (language : Language) : LabelledSystem (Stack Region) (Turn language) where
  Initial state := state = {}
  step state turn := do
    let (answer, objects) ← state.reads describes turn
    state.finish describes turn answer objects

end System

/-! ### What an operation leaves of the C engine

A method of the Python adapter makes at most one call of the C API, and what it leaves of the
engine is what the header says for the answer.  As in the other modules, the lemmas follow the
ways in which the methods are put together. -/

section Leaves

variable {Region : Type} {α β : Type} {world : World Region} {engine : Option (CEngine Region)}

/-- A method ends with this C engine, whether it returns or raises. -/
def Leaves (engine : Option (CEngine Region)) (method : Native Region α)
    (world : World Region) : Prop :=
  match method.run world with
  | .ok _ after | .error (.raised _) after => after.engine = engine
  | .error .broken _ => False

namespace Leaves

theorem of_run {method method' : Native Region α} {world' : World Region}
    (same : method.run world = method'.run world') (leaves : Leaves engine method' world') :
    Leaves engine method world := by
  rw [Leaves, same]
  exact leaves

theorem pure (value : α) (same : world.engine = engine) :
    Leaves engine (pure value : Native Region α) world := same

theorem throw (error : Raised) (same : world.engine = engine) :
    Leaves engine (throw (.raised error) : Native Region α) world := same

theorem raising (computation : Except Raised α) (same : world.engine = engine) :
    Leaves engine (NativeEngine.raising computation) world := by
  cases computation with
  | ok value => exact pure value same
  | error error => exact throw error same

theorem update (change : NativeEngine → NativeEngine) (same : world.engine = engine) :
    Leaves engine (NativeEngine.update change) world := same

theorem get (same : world.engine = engine) :
    Leaves engine (MonadState.get : Native Region (World Region)) world := same

theorem map {method : Native Region α} (change : α → β) (leaves : Leaves engine method world) :
    Leaves engine (change <$> method) world := by
  unfold Leaves at leaves ⊢
  rw [run_map]
  cases run : method.run world with
  | ok value after =>
      rw [run] at leaves
      exact leaves
  | error error after =>
      rw [run] at leaves
      cases error <;> exact leaves

/-- Sequencing: the rest starts with the C engine that the first step has left. -/
theorem bind {first : Native Region α} {next : α → Native Region β}
    (leaves : Leaves engine first world)
    (then_ : ∀ value after, after.engine = engine → Leaves engine (next value) after) :
    Leaves engine (first >>= next) world := by
  unfold Leaves at leaves ⊢
  rw [EStateM.run_bind]
  cases run : first.run world with
  | ok value after =>
      rw [run] at leaves
      exact then_ value after leaves
  | error error after =>
      rw [run] at leaves
      cases error <;> exact leaves

/-- A check that raises before the rest. -/
theorem checked {condition : Prop} [Decidable condition] {message : String}
    {rest : Unit → Native Region α} (same : world.engine = engine)
    (leaves : Leaves engine (rest ()) world) :
    Leaves engine
      (if condition then NativeEngine.throwRuntimeError message >>= rest else rest ()) world := by
  split
  · exact same
  · exact leaves

variable [DecidableEq Region] {describes : Bytes → Option Region} {answer : Answer}

/-- An allowed call leaves the C engine that the header says. -/
theorem call (mirrors : Mirrors world) (name : String) {function : CCall}
    (accepted : CEngine.accept describes world.engine function answer = some engine) :
    Leaves engine (NativeEngine.call describes name function answer) world :=
  of_run (Settles.run_call name (mirrors.handle.symm ▸ accepted)) (raising _ rfl)

end Leaves

/-- A method makes this call of the C API, or none: without one it leaves the C engine alone, and
otherwise as the header says for the answer. -/
structure Asks [DecidableEq Region] (describes : Bytes → Option Region) (answer : Answer)
    (world : World Region) (method : Native Region α) (function : Option CCall) : Prop where
  uncalled : function = none → Leaves world.engine method world
  called : ∀ asked engine, function = some asked →
    CEngine.accept describes world.engine asked answer = some engine → Leaves engine method world

namespace Asks

variable [DecidableEq Region] {describes : Bytes → Option Region} {answer : Answer}

/-- A conversion of an argument. -/
theorem converted {computation : Except Raised α} {next : α → Native Region β}
    {function : α → Option CCall}
    (asks : ∀ value, Asks describes answer world (next value) (function value)) :
    Asks describes answer world (NativeEngine.raising computation >>= next)
      (computation.toOption >>= function) := by
  cases computation with
  | error error =>
      refine ⟨fun _ => Leaves.throw error rfl, fun _ _ none_ => ?_⟩
      cases none_
  | ok value => exact asks value

/-- A method that does not accept empty bytes. -/
theorem nonempty {metadata : Bytes} {error : Raised} {method : Native Region β}
    {function : Option CCall} (asks : Asks describes answer world method function) :
    Asks describes answer world
      (if metadata = [] then throw (.raised error) >>= fun (_ : α) => method else method)
      (if metadata = [] then none else function) := by
  split
  · refine ⟨fun _ => Leaves.throw error rfl, fun _ _ none_ => ?_⟩
    cases none_
  · exact asks

/-- The call, and what follows it. -/
theorem call (mirrors : Mirrors world) (name : String) {function : CCall}
    {next : Unit → Native Region β}
    (then_ : ∀ engine after, after.engine = engine → Leaves engine (next ()) after) :
    Asks describes answer world (NativeEngine.call describes name function answer >>= next)
      (some function) where
  uncalled some_ := by cases some_
  called asked engine same accepted := by
    obtain rfl := Option.some.inj same
    exact (Leaves.call mirrors name accepted).bind fun _ after => then_ engine after

/-- A method that looks at the tables first. -/
theorem get_bind {next : World Region → Native Region α} {function : Option CCall}
    (asks : Asks describes answer world (next world) function) :
    Asks describes answer world (get >>= next) function :=
  ⟨asks.uncalled, asks.called⟩

theorem map {method : Native Region α} {function : Option CCall} (change : α → β)
    (asks : Asks describes answer world method function) :
    Asks describes answer world (change <$> method) function where
  uncalled none_ := (asks.uncalled none_).map change
  called asked engine same accepted := (asks.called asked engine same accepted).map change

end Asks

variable [DecidableEq Region] {describes : Bytes → Option Region} {answer : Answer}

/-- Every method makes the call of its function. -/
theorem NativeOperation.asks (mirrors : Mirrors world) (operation : NativeOperation) :
    Asks describes answer world (operation.run describes answer)
      (operation.function world.native) := by
  cases operation with
  | registerLocalMemory memory access =>
      refine .map _ <| .converted fun _ => .converted fun flags => ?_
      refine .call mirrors _ fun engine after same => ?_
      refine .bind (.get same) fun _ _ same => .checked same ?_
      refine .bind (.update _ same) fun _ _ same => .checked same ?_
      exact .bind (.update _ same) fun _ _ same => .pure _ same
  | deregisterLocalMemory memory =>
      refine .converted fun handle => .call mirrors _ fun engine after same => ?_
      refine .bind (.get same) fun _ _ same => .bind (.raising _ same) fun _ _ same => ?_
      exact .update _ same
  | importRemoteMemory peer metadata =>
      refine .map _ <| .nonempty <| .converted fun handle => ?_
      refine .call mirrors _ fun engine after same => ?_
      refine .bind (.get same) fun _ _ same => .checked same ?_
      exact .bind (.update _ same) fun _ _ same => .pure _ same
  | removeRemoteMemory remoteMemory =>
      refine .converted fun handle => .call mirrors _ fun engine after same => ?_
      refine .bind (.get same) fun _ _ same => .bind (.raising _ same) fun _ _ same => ?_
      exact .update _ same
  | createPeer =>
      refine .map _ <| .call mirrors _ fun engine after same => ?_
      refine .bind (.get same) fun _ _ same => .checked same <| .checked same ?_
      exact .bind (.update _ same) fun _ _ same => .pure _ same
  | connectPeer peer metadata =>
      refine .nonempty <| .converted fun handle => ?_
      rw [← bind_pure (NativeEngine.call _ _ _ _)]
      exact .call mirrors _ fun engine after same => .pure _ same
  | destroyPeer peer =>
      refine .converted fun handle => .call mirrors _ fun engine after same => ?_
      refine .bind (.get same) fun _ _ same => .bind (.raising _ same) fun _ _ same => ?_
      exact .bind (.update _ same) fun _ _ same => .update _ same
  | submitTransfer requests =>
      refine .map _ <| .converted fun entries => .call mirrors _ fun engine after same => ?_
      refine .bind (.get same) fun _ _ same => .checked same ?_
      exact .bind (.update _ same) fun _ _ same => .pure _ same
  | getTransferStatuses batch =>
      refine .map _ <| .get_bind <| .converted fun operations => .converted fun handle => ?_
      exact .call mirrors _ fun engine after same => .raising _ same
  | freeBatch batch =>
      refine .converted fun handle => .call mirrors _ fun engine after same => ?_
      refine .bind (.get same) fun _ _ same => .bind (.raising _ same) fun _ _ same => ?_
      exact .update _ same
  | close =>
      refine .get_bind ?_
      cases closed : world.native.closed with
      | true =>
          simp only [NativeOperation.function, closed, if_true]
          refine ⟨fun _ => .pure () rfl, fun _ _ none_ => ?_⟩
          cases none_
      | false =>
          simp only [NativeOperation.function, closed]
          exact .call mirrors _ fun engine after same => .update _ same

end Leaves

/-! ### Every operation of every run

The adapters and the two contracts are put together.  The invariant of the run is that some
state of the C API fits both ends; the tables of Python follow from it. -/

section Serving

variable {Region : Type} {language : Language}

theorem Language.course (allocates : Nat → Bool) (native : language.Engine) {frame : Frame}
    {function : CCall} (passes : function.Passes frame) :
    Course (language.replies native) frame function
      (language.run allocates native (function.marshal frame true)) := by
  cases language with
  | cpp => exact Cpp.course allocates native passes
  | rust => exact Rust.course allocates native passes

theorem Language.run_closed (allocates : Nat → Bool) (native : language.Engine) (frame : Frame)
    (function : CCall) :
    (language.run allocates native (function.marshal frame false)).result = some R101.invalid ∧
      (language.run allocates native (function.marshal frame false)).calls = [] := by
  cases language with
  | cpp => exact Cpp.run_closed allocates native frame function
  | rust => exact Rust.run_closed allocates native frame function

theorem opcodes_injective : Function.Injective opcodes := by
  intro first second same
  cases first <;> cases second <;> first | rfl | exact absurd same (by decide)

/-- The operation type of a request that the engine was given. -/
def Native.Request.type (request : Native.Request) : OperationType :=
  request.operation.toPython.type

theorem map_opcodes_type (requests : List Native.Request) :
    (requests.map Native.Request.type).map opcodes = requests.map Native.Request.opcode :=
  List.map_map

/-- The tables of Python are what the C API shows, and the C API shows what the engine holds. -/
structure Stack.Sound (state : Stack Region) : Prop where
  mirrors : Mirrors state.world
  shows : Shows state.objects state.world.engine

/-- The tables of Python are the live objects of the engine. -/
structure Stack.Tables (state : Stack Region) : Prop where
  memories : ∀ handle, (state.world.native.memories.get? handle).map Registration.of =
    (state.objects.getD {}).registrations.get? handle
  remoteMemories : ∀ handle, state.world.native.remoteMemories.get? handle =
    ((state.objects.getD {}).imports.get? handle).map Prod.fst
  batches : ∀ handle, state.world.native.batches.get? handle =
    ((state.objects.getD {}).batches.get? handle).map (List.map Native.Request.type)
  peers : ∀ handle, state.world.native.peers.get? handle =
    (state.objects.getD {}).peers.get? handle
  closed : state.world.native.closed = state.objects.isNone

/-- The batch tables, from what the C API shows of the operation types. -/
theorem types_of_opcodes {operations : Option (List OperationType)}
    {requests : Option (List Native.Request)}
    (same : operations.map (List.map opcodes) = requests.map (List.map Native.Request.opcode)) :
    operations = requests.map (List.map Native.Request.type) := by
  cases operations with
  | none =>
      cases requests with
      | none => rfl
      | some requests => cases same
  | some operations =>
      cases requests with
      | none => cases same
      | some requests =>
          have sameOpcodes : operations.map opcodes = requests.map Native.Request.opcode :=
            Option.some.inj same
          rw [← map_opcodes_type] at sameOpcodes
          exact congrArg some (List.map_injective_iff.mpr opcodes_injective sameOpcodes)

theorem Stack.Sound.tables {state : Stack Region} (sound : state.Sound) : state.Tables := by
  obtain ⟨⟨native, engine⟩, objects⟩ := state
  obtain ⟨⟨memories, remoteMemories, batches, peers, closed⟩, shows⟩ := sound
  cases shows with
  | gone =>
      refine ⟨fun handle => ?_, remoteMemories, fun handle => ?_, peers, closed⟩
      · rw [memories handle]
        rfl
      · exact Option.map_eq_none_iff.mp (batches handle)
  | @live objects shown represents =>
      refine ⟨fun handle => ?_, fun handle => ?_, fun handle => ?_, fun handle => ?_, closed⟩
      · rw [memories handle]
        exact (represents.registrations handle).symm
      · rw [remoteMemories handle]
        exact congrArg (fun table => (table.get? handle).map Prod.fst) represents.imports.symm
      · exact types_of_opcodes ((batches handle).trans (represents.batches handle).symm)
      · rw [peers handle]
        exact congrArg (fun table => table.get? handle) represents.peers.symm

variable [DecidableEq Region] {describes : Bytes → Option Region} {state : Stack Region}
  {turn : Turn language} {answer : Answer} {objects : Option (EngineObjects Region)}

/-- What Python reads back is an answer that the header allows. -/
theorem Stack.Sound.accepted (sound : state.Sound) {function : CCall}
    (calls : turn.operation.function state.world.native = some function)
    (reads : state.reads describes turn = some (answer, objects)) :
    ∃ engine, CEngine.accept describes state.world.engine function answer = some engine ∧
      Shows objects engine := by
  obtain ⟨⟨native, engine⟩, held⟩ := state
  obtain ⟨mirrors, shows⟩ := sound
  simp only [Stack.reads, calls, Option.bind_eq_bind, Option.bind_eq_some_iff,
    Option.guard_eq_some', Option.pure_def, Option.some.injEq, Prod.mk.injEq] at reads
  obtain ⟨_, passes, answer, answered, objects, after, rfl, rfl⟩ := reads
  have closed : native.closed = engine.isNone := mirrors.closed
  cases shows with
  | gone =>
      have closed : native.closed = true := closed
      simp only [Stack.outcome, closed, Bool.not_true] at answered after
      obtain ⟨result, noCalls⟩ := language.run_closed turn.allocates turn.engine turn.frame function
      rw [noCalls] at after
      obtain rfl := Option.some.inj after
      have invalid : answer.code = R101.invalid := by
        rw [Frame.answer, result] at answered
        obtain rfl := Option.some.inj answered
        rfl
      refine ⟨none, ?_, .gone⟩
      rw [CEngine.accept]
      exact if_pos invalid
  | live represents =>
      have opened : native.closed = false := closed
      simp only [Stack.outcome, opened, Bool.not_false] at answered after
      exact (language.course turn.allocates turn.engine passes).served represents passes answered
        after

/-- An operation of the stack ends, and both sides stay in step. -/
theorem Stack.Sound.finishes (sound : state.Sound)
    (reads : state.reads describes turn = some (answer, objects)) :
    ∃ after : World Region, state.finish describes turn answer objects = some ⟨after, objects⟩ ∧
      (⟨after, objects⟩ : Stack Region).Sound := by
  have asks : Asks describes answer state.world (turn.operation.run describes answer)
      (turn.operation.function state.world.native) := turn.operation.asks sound.mirrors
  have left : ∃ engine, Leaves engine (turn.operation.run describes answer) state.world ∧
      Shows objects engine := by
    cases calls : turn.operation.function state.world.native with
    | none =>
        simp only [Stack.reads, calls, Option.some.injEq, Prod.mk.injEq] at reads
        obtain ⟨rfl, rfl⟩ := reads
        exact ⟨_, asks.uncalled calls, sound.shows⟩
    | some function =>
        obtain ⟨engine, accepted, shows⟩ := sound.accepted calls reads
        exact ⟨engine, asks.called function engine calls accepted, shows⟩
  obtain ⟨engine, leaves, shows⟩ := left
  unfold Leaves at leaves
  unfold Stack.finish
  cases run : (turn.operation.run describes answer).run state.world with
  | ok value after =>
      rw [run] at leaves
      exact ⟨after, rfl, (returned_mirrors sound.mirrors run).1, leaves ▸ shows⟩
  | error error after =>
      rw [run] at leaves
      cases error with
      | broken => exact leaves.elim
      | raised error =>
          have unchanged := (raised_unchanged sound.mirrors run).1
          exact ⟨after, rfl, unchanged ▸ sound.mirrors, leaves ▸ shows⟩

/-- A run of the stack keeps both sides in step. -/
theorem sound_of_reachable
    (reached : (stackSystem describes language).Reachable (fun _ _ => True) state) :
    state.Sound := by
  apply reached.invariant
  · rintro state rfl
    exact ⟨.initial, .live .initial⟩
  · intro before turn after sound _ taken
    simp only [stackSystem, Option.bind_eq_bind, Option.bind_eq_some_iff] at taken
    obtain ⟨⟨answer, objects⟩, reads, finished⟩ := taken
    obtain ⟨world, finished', sound'⟩ := sound.finishes reads
    rw [finished'] at finished
    exact Option.some.inj finished ▸ sound'

/-- The adapters carry the contracts through.  Over a C++ or a Rust engine that keeps the contract
of its interface, in every state of every run the tables of Python are the live objects of the
engine; and whatever the engine replies, what the adapter makes of it is an answer that the header
allows, so that every operation of Python ends. -/
theorem adapter_stack_serves
    (reached : (stackSystem describes language).Reachable (fun _ _ => True) state) :
    state.Tables ∧
    ∀ (turn : Turn language) answer objects, state.reads describes turn = some (answer, objects) →
      ∃ world, (stackSystem describes language).step state turn = some ⟨world, objects⟩ := by
  have sound := sound_of_reachable reached
  refine ⟨sound.tables, fun turn answer objects reads => ?_⟩
  obtain ⟨world, finished, -⟩ := sound.finishes reads
  refine ⟨world, ?_⟩
  simp only [stackSystem, reads, Option.bind_eq_bind, Option.bind_some]
  exact finished

end Serving

/-- Pointers to separate words, where every byte is 7. -/
def sampleFrame : Frame where
  engine := 0x8000
  first := 0x9000
  second := 0x9008
  third := 0x9010
  array := 0xA000
  input := 0xB000
  reads span := List.replicate span.size.toNat 7
  nonnull := ⟨by decide, by decide, by decide, by decide, by decide, by decide⟩
  distinct := ⟨by decide, by decide, by decide⟩
  aligned := rfl
  whole span := List.length_replicate

/-- A turn over a Rust engine that succeeds with this handle. -/
def sampleTurn (operation : NativeOperation) (handle : UInt64) : Turn .rust where
  operation := operation
  frame := sampleFrame
  allocates _ := true
  engine _ := some { result := .ok ⟨handle, ⟨0xC000, 3⟩⟩, statuses := fun _ => .pending }

/-- A registration, a peer with one import, and a batch. -/
def sampleTurns : List (Turn .rust) :=
  [sampleTurn (.registerLocalMemory ⟨1, 0x1000, 64, Nat.succ_pos 63⟩ 5) 31,
    sampleTurn .createPeer 7, sampleTurn (.connectPeer 7 [7, 7]) 0,
    sampleTurn (.importRemoteMemory 7 [7]) 17,
    sampleTurn (.submitTransfer [⟨7, 0x1000, 8, .recv⟩, ⟨7, 0x1000, 8, .write 0x2000⟩]) 10]

/-- The objects of the sample run, and a status query after it. -/
theorem adapter_stack_serves_run : ∃ state : Stack Bytes,
    (state.world.native.remoteMemories.entries = [(17, 7)] ∧
      state.world.native.batches.entries = [(10, [.recv, .write])]) ∧
    state.Tables ∧ ∃ after, (stackSystem some .rust).step state
      (sampleTurn (.getTransferStatuses 10) 0) = some after := by
  have computed : ∃ state, (stackSystem some .rust).Reachable (fun _ _ => True) state ∧
      (state.world.native.remoteMemories.entries = [(17, 7)] ∧
        state.world.native.batches.entries = [(10, [.recv, .write])]) ∧
      (state.reads some (sampleTurn (.getTransferStatuses 10) 0)).isSome = true :=
    LabelledSystem.exists_reachable (.initial rfl) sampleTurns (by decide +kernel)
  obtain ⟨state, reached, facts, isRead⟩ := computed
  obtain ⟨⟨answer, objects⟩, reads⟩ := Option.isSome_iff_exists.mp isRead
  have serves := adapter_stack_serves reached
  obtain ⟨world, ended⟩ := serves.2 _ answer objects reads
  exact ⟨state, facts, serves.1, _, ended⟩

end Rdma101.Abi
