/-
Module: Rdma101.Abi.Mirror
Purpose: The tables of the adapter are the live sets of the C engine, in every state of every run
  over every engine that keeps the contract of the header.
Trusted boundary: none
Main exports: Mirrors, Settles, NativeOperation.settles, native_engine_mirrors
-/
import Rdma101.Abi.Errors

namespace Rdma101.Abi

section

variable {Region : Type}

/-- The live sets of the C engine; an engine that is gone has none. -/
def World.live (world : World Region) : CEngine Region := world.engine.getD {}

/-- The tables of the adapter are the live sets of the C engine.  The Python object of every live
registration is the one whose range was registered, and it is still held. -/
structure Mirrors (world : World Region) : Prop where
  memories : ∀ handle, world.native.memories.get? handle = world.live.registrations.get? handle
  remoteMemories : ∀ handle,
    world.native.remoteMemories.get? handle = (world.live.imports.get? handle).map Prod.fst
  batches : ∀ handle,
    (world.native.batches.get? handle).map (List.map opcodes) = world.live.batches.get? handle
  peers : ∀ handle, world.native.peers.get? handle = world.live.peers.get? handle
  closed : world.native.closed = world.engine.isNone

theorem Mirrors.initial : Mirrors ({} : World Region) where
  memories := fun _ => rfl
  remoteMemories := fun _ => rfl
  batches := fun _ => rfl
  peers := fun _ => rfl
  closed := rfl

section

variable {world : World Region} {live : CEngine Region}

theorem Mirrors.live_eq (present : world.engine = some live) : world.live = live := by
  rw [World.live, present, Option.getD_some]

theorem Mirrors.withMemories (mirrors : Mirrors world) (present : world.engine = some live)
    (memories : OrderedDict Handle (Memory × Bytes)) (registrations : HandleTable (Memory × Bytes))
    (same : ∀ handle, memories.get? handle = registrations.get? handle) :
    Mirrors
      { native := { world.native with memories := memories }
        engine := some { live with registrations := registrations } } := by
  obtain ⟨_, remoteMemories, batches, peers, closed⟩ := mirrors
  rw [Mirrors.live_eq present] at remoteMemories batches peers
  rw [present] at closed
  exact ⟨same, remoteMemories, batches, peers, closed⟩

theorem Mirrors.withImports (mirrors : Mirrors world) (present : world.engine = some live)
    (remoteMemories : OrderedDict Handle Handle) (imports : HandleTable (Handle × Region))
    (same : ∀ handle, remoteMemories.get? handle = (imports.get? handle).map Prod.fst) :
    Mirrors
      { native := { world.native with remoteMemories := remoteMemories }
        engine := some { live with imports := imports } } := by
  obtain ⟨memories, _, batches, peers, closed⟩ := mirrors
  rw [Mirrors.live_eq present] at memories batches peers
  rw [present] at closed
  exact ⟨memories, same, batches, peers, closed⟩

theorem Mirrors.withPeers (mirrors : Mirrors world) (present : world.engine = some live)
    (nativePeers : OrderedDict Handle Unit) (peers : HandleTable Unit)
    (same : ∀ handle, nativePeers.get? handle = peers.get? handle) :
    Mirrors
      { native := { world.native with peers := nativePeers }
        engine := some { live with peers := peers } } := by
  obtain ⟨memories, remoteMemories, batches, _, closed⟩ := mirrors
  rw [Mirrors.live_eq present] at memories remoteMemories batches
  rw [present] at closed
  exact ⟨memories, remoteMemories, batches, same, closed⟩

theorem Mirrors.withBatches (mirrors : Mirrors world) (present : world.engine = some live)
    (nativeBatches : OrderedDict Handle (List OperationType))
    (batches : HandleTable (List UInt32))
    (same : ∀ handle, (nativeBatches.get? handle).map (List.map opcodes) = batches.get? handle) :
    Mirrors
      { native := { world.native with batches := nativeBatches }
        engine := some { live with batches := batches } } := by
  obtain ⟨memories, remoteMemories, _, peers, closed⟩ := mirrors
  rw [Mirrors.live_eq present] at memories remoteMemories peers
  rw [present] at closed
  exact ⟨memories, remoteMemories, same, peers, closed⟩

/-- Which peers are connected does not matter to the tables. -/
theorem Mirrors.withConnected (mirrors : Mirrors world) (present : world.engine = some live)
    (connected : List Handle) :
    Mirrors
      { world with engine := some { live with connected := connected } } := by
  obtain ⟨memories, remoteMemories, batches, peers, closed⟩ := mirrors
  rw [Mirrors.live_eq present] at memories remoteMemories batches peers
  rw [present] at closed
  exact ⟨memories, remoteMemories, batches, peers, closed⟩

/-- A status query names a live batch; the other operations take any argument. -/
def NativeOperation.NamesBatch (world : World Region) : NativeOperation → Prop
  | .getTransferStatuses batch => 0 ≤ batch ∧ (world.live.batches.get? batch.toNat).isSome
  | .registerLocalMemory _ _ | .deregisterLocalMemory _ | .importRemoteMemory _ _
  | .removeRemoteMemory _ | .createPeer | .connectPeer _ _ | .destroyPeer _ | .submitTransfer _
  | .freeBatch _ | .close => True

/-- The table holds the batches that are live. -/
theorem namesBatch_iff (mirrors : Mirrors world) {batch : Int} :
    (NativeOperation.getTransferStatuses batch).NamesBatch world ↔
      ∃ operations, NativeEngine.item world.native.batches batch = .ok operations := by
  have same := mirrors.batches batch.toNat
  simp only [NativeOperation.NamesBatch, NativeEngine.item]
  rw [← same, Option.isSome_map]
  by_cases nonneg : 0 ≤ batch
  · cases world.native.batches.get? batch.toNat <;> simp [nonneg]
  · simp [nonneg]

/-- The four tables have no entry. -/
structure NativeEngine.Empty (native : NativeEngine) : Prop where
  memories : ∀ handle, native.memories.get? handle = none
  remoteMemories : ∀ handle, native.remoteMemories.get? handle = none
  batches : ∀ handle, native.batches.get? handle = none
  peers : ∀ handle, native.peers.get? handle = none

/-- A closed adapter has no engine behind it. -/
theorem Mirrors.engine_eq_none (mirrors : Mirrors world) (closed : world.native.closed = true) :
    world.engine = none := by
  rw [mirrors.closed] at closed
  exact Option.isNone_iff_eq_none.mp closed

/-- The handle points to the engine. -/
theorem Mirrors.handle (mirrors : Mirrors world) :
    (if world.native.closed then none else world.engine) = world.engine := by
  rw [mirrors.closed]
  cases world.engine <;> rfl

theorem Mirrors.empty_of_closed (mirrors : Mirrors world) (closed : world.native.closed = true) :
    world.native.Empty := by
  have nothing : world.live = {} := by
    rw [World.live, mirrors.engine_eq_none closed, Option.getD_none]
  obtain ⟨memories, remoteMemories, batches, peers, _⟩ := mirrors
  rw [nothing] at memories remoteMemories batches peers
  exact ⟨memories, remoteMemories, fun handle => Option.map_eq_none_iff.mp (batches handle), peers⟩

end

/-- The tables are in step, or nothing has changed since `before` and the error is not one of the
bookkeeping.  Without an engine nothing ever changes. -/
def Ends {α : Type} (before : World Region) :
    EStateM.Result Abrupt (World Region) α → Prop
  | .ok _ after => Mirrors after ∧ (before.engine = none → after = before)
  | .error (.raised error) after => after = before ∧ ¬error.Internal
  | .error .broken _ => True

/-- A method that was started in `before` and is now in `world` ends well. -/
structure Settles {α : Type} (before : World Region) (method : Native Region α)
    (world : World Region) : Prop where
  ends : Ends before (method.run world)

namespace Settles

variable {α β : Type} {before world : World Region}

theorem of_ok {method : Native Region α} (value : α) (after : World Region)
    (run : method.run world = .ok value after) (mirrors : Mirrors after)
    (kept : before.engine = none → after = before) : Settles before method world :=
  ⟨run ▸ ⟨mirrors, kept⟩⟩

/-- A method that found a live engine. -/
theorem of_live {method : Native Region α} {live : CEngine Region}
    (present : before.engine = some live) (value : α) (after : World Region)
    (run : method.run world = .ok value after) (mirrors : Mirrors after) :
    Settles before method world := by
  apply of_ok value after run mirrors
  intro gone
  rw [present] at gone
  cases gone

theorem of_raised {method : Native Region α} (error : Raised)
    (run : method.run world = .error (.raised error) before) (notInternal : ¬error.Internal) :
    Settles before method world :=
  ⟨run ▸ ⟨rfl, notInternal⟩⟩

theorem of_broken {method : Native Region α} {after : World Region}
    (run : method.run world = .error .broken after) : Settles before method world :=
  ⟨run ▸ trivial⟩

/-- A first step that returned leaves the rest. -/
theorem of_bind_ok {first : Native Region α} {next : α → Native Region β} {value : α}
    {after : World Region} (run : first.run world = .ok value after)
    (settled : Settles before (next value) after) : Settles before (first >>= next) world := by
  refine ⟨?_⟩
  have same : (first >>= next).run world = (next value).run after := by simp [run]
  exact same ▸ settled.ends

theorem get_bind {next : World Region → Native Region α}
    (settled : Settles before (next world) world) : Settles before (get >>= next) world :=
  ⟨settled.ends⟩

/-- What a method returns does not matter. -/
theorem map {method : Native Region α} (change : α → β) (settled : Settles before method world) :
    Settles before (change <$> method) world := by
  refine ⟨?_⟩
  have ends := settled.ends
  rw [run_map]
  cases run : method.run world with
  | ok value after =>
      rw [run] at ends
      exact ends
  | error error after =>
      rw [run] at ends
      cases error <;> exact ends

/-- A conversion that fails before anything has changed. -/
theorem raising_bind {computation : Except Raised α} {next : α → Native Region β}
    (proper : Proper computation)
    (continued : ∀ value, computation = .ok value → Settles before (next value) before) :
    Settles before (NativeEngine.raising computation >>= next) before := by
  cases result : computation with
  | error error =>
      exact of_raised error (by simp [NativeEngine.raising]) (proper error result)
  | ok value =>
      exact of_bind_ok rfl (continued value result)

/-- A result code other than OK raises. -/
theorem check_raises (name : String) {code : Int32} (failed : code ≠ R101.ok) :
    ∃ error, check name code = .error error := by
  cases search : errorCode code with
  | error error => exact ⟨error, by simp only [check, if_pos failed, search]; rfl⟩
  | ok known => exact ⟨_, by simp only [check, if_pos failed, search]; rfl⟩

theorem check_ok (name : String) : check name R101.ok = .ok () := rfl

variable [DecidableEq Region] {describes : Bytes → Option Region}

/-- A call that failed has changed nothing. -/
theorem accept_failed {engine after : Option (CEngine Region)} {function : CCall}
    {answer : Answer} (failed : answer.code ≠ R101.ok)
    (accepted : CEngine.accept describes engine function answer = some after) :
    after = engine := by
  cases engine with
  | none =>
      simp only [CEngine.accept, Option.ite_none_right_eq_some] at accepted
      exact (Option.some.inj accepted.2).symm
  | some live =>
      simp only [CEngine.accept, if_neg failed] at accepted
      exact (Option.some.inj accepted).symm

/-- Only a live engine lets a call succeed. -/
theorem accept_ok {engine after : Option (CEngine Region)} {function : CCall} {answer : Answer}
    (isOk : answer.code = R101.ok)
    (accepted : CEngine.accept describes engine function answer = some after) :
    ∃ live, engine = some live ∧ live.succeed describes answer function = some after := by
  cases engine with
  | none =>
      simp only [CEngine.accept, Option.ite_none_right_eq_some, isOk] at accepted
      exact absurd accepted.1 (by decide)
  | some live =>
      simp only [CEngine.accept, if_pos isOk] at accepted
      exact ⟨live, rfl, accepted⟩

/-- A call that the header allows runs the C engine, and then checks the code. -/
theorem run_call (name : String) {function : CCall} {answer : Answer}
    {engine : Option (CEngine Region)}
    (accepted : CEngine.accept describes
      (if world.native.closed then none else world.engine) function answer = some engine) :
    (NativeEngine.call describes name function answer).run world =
      (NativeEngine.raising (check name answer.code)).run { world with engine := engine } := by
  simp [NativeEngine.call, accepted]

/-- A call of the C engine: unless it succeeded nothing has changed, and the method raises. -/
theorem call_bind {name : String} {function : CCall} {answer : Answer}
    {next : Unit → Native Region α} (mirrors : Mirrors world)
    (continued : ∀ live engine, world.engine = some live →
      live.succeed describes answer function = some engine →
      Settles world (next ()) { world with engine := engine }) :
    Settles world (NativeEngine.call describes name function answer >>= next) world := by
  have handle := mirrors.handle
  cases accepted : CEngine.accept describes world.engine function answer with
  | none =>
      have broken : (NativeEngine.call describes name function answer >>= next).run world =
          .error .broken world := by
        simp [NativeEngine.call, handle, accepted]
      exact of_broken broken
  | some engine =>
      have run := run_call name (handle.symm ▸ accepted)
      by_cases isOk : answer.code = R101.ok
      · obtain ⟨live, present, succeeded⟩ := accept_ok isOk accepted
        rw [isOk, check_ok] at run
        exact of_bind_ok run (continued live engine present succeeded)
      · have unchanged : ({ world with engine := engine } : World Region) = world := by
          rw [accept_failed isOk accepted]
        obtain ⟨error, raised⟩ := check_raises name isOk
        refine of_raised error ?_ (check_proper name answer.code error raised)
        rw [unchanged, raised] at run
        simp [run, NativeEngine.raising]

theorem call_last {name : String} {function : CCall} {answer : Answer}
    (mirrors : Mirrors world)
    (continued : ∀ live engine, world.engine = some live →
      live.succeed describes answer function = some engine →
      Mirrors { world with engine := engine }) :
    Settles world (NativeEngine.call describes name function answer) world := by
  rw [← bind_pure (NativeEngine.call describes name function answer)]
  apply call_bind mirrors
  intro live engine present succeeded
  exact of_live present () _ rfl (continued live engine present succeeded)

end Settles

/-! ### One lemma for each method

Each method converts its arguments, calls the C engine and then changes its tables.  `Settles`
is stated so that it composes along these steps: whatever has raised so far has changed nothing,
and once the call has succeeded nothing raises any more. -/

variable {α : Type} [DecidableEq Region] {describes : Bytes → Option Region} {world : World Region}
  {answer : Answer}

theorem registerLocalMemory_settles (mirrors : Mirrors world) (memory : Memory) (access : Int) :
    Settles world (NativeEngine.registerLocalMemory describes memory access answer) world := by
  unfold NativeEngine.registerLocalMemory
  refine .raising_bind (toUInt64_proper memory.size) fun _ _ => ?_
  refine .raising_bind (toUInt32_proper access) fun access _ => ?_
  refine .call_bind mirrors fun live engine present succeeded => ?_
  simp only [CEngine.succeed, Option.bind_eq_bind, Option.bind_eq_some_iff, Option.guard_eq_some',
    Option.dite_none_right_eq_some, Option.pure_def, Option.some.injEq] at succeeded
  obtain ⟨metadata, given, _, ⟨nonempty, _⟩, fresh, rfl⟩ := succeeded
  have same : ∀ handle, world.native.memories.get? handle = live.registrations.get? handle :=
    Mirrors.live_eq present ▸ mirrors.memories
  have unused : world.native.memories.get? answer.handle = none := by
    rw [same, fresh.get?_eq_none]
  let stored := (world.native.memories.set answer.handle (memory, [])).set answer.handle
    (memory, metadata)
  have inStep : ∀ handle, stored.get? handle =
      (live.registrations.add answer.handle (memory, metadata) fresh).get? handle := by
    intro handle
    simp only [stored, OrderedDict.get?_set, HandleTable.get?_add, same]
    split <;> rfl
  refine .of_live present ⟨answer.handle, metadata⟩ _ ?_
    (mirrors.withMemories present stored _ inStep)
  simp [unused, fresh.1, given, nonempty, NativeEngine.update, stored]

theorem deregisterLocalMemory_settles (mirrors : Mirrors world) (memory : Int) :
    Settles world (NativeEngine.deregisterLocalMemory describes memory answer) world := by
  unfold NativeEngine.deregisterLocalMemory
  refine .raising_bind (toHandle_proper memory) fun memory _ => ?_
  refine .call_bind mirrors fun live engine present succeeded => ?_
  simp only [CEngine.succeed, Option.bind_eq_bind, Option.bind_eq_some_iff, Option.guard_eq_some',
    Option.pure_def, Option.some.injEq] at succeeded
  obtain ⟨_, registered, rfl⟩ := succeeded
  have same : ∀ handle, world.native.memories.get? handle = live.registrations.get? handle :=
    Mirrors.live_eq present ▸ mirrors.memories
  have held : (world.native.memories.get? memory).isSome := by rwa [same]
  have inStep : ∀ handle, (world.native.memories.erase memory).get? handle =
      (live.registrations.remove memory).get? handle := by
    intro handle
    rw [OrderedDict.get?_erase, HandleTable.get?_remove, same]
  refine .of_live present () _ ?_ (mirrors.withMemories present _ _ inStep)
  simp [NativeEngine.delete, held, NativeEngine.raising, NativeEngine.update]

theorem removeRemoteMemory_settles (mirrors : Mirrors world) (remoteMemory : Int) :
    Settles world (NativeEngine.removeRemoteMemory describes remoteMemory answer) world := by
  unfold NativeEngine.removeRemoteMemory
  refine .raising_bind (toHandle_proper remoteMemory) fun remoteMemory _ => ?_
  refine .call_bind mirrors fun live engine present succeeded => ?_
  simp only [CEngine.succeed, Option.bind_eq_bind, Option.bind_eq_some_iff, Option.guard_eq_some',
    Option.pure_def, Option.some.injEq] at succeeded
  obtain ⟨_, imported, rfl⟩ := succeeded
  have same : ∀ handle,
      world.native.remoteMemories.get? handle = (live.imports.get? handle).map Prod.fst :=
    Mirrors.live_eq present ▸ mirrors.remoteMemories
  have held : (world.native.remoteMemories.get? remoteMemory).isSome := by
    rwa [same, Option.isSome_map]
  have inStep : ∀ handle, (world.native.remoteMemories.erase remoteMemory).get? handle =
      ((live.imports.remove remoteMemory).get? handle).map Prod.fst := by
    intro handle
    rw [OrderedDict.get?_erase, HandleTable.get?_remove, same]
    split <;> rfl
  refine .of_live present () _ ?_ (mirrors.withImports present _ _ inStep)
  simp [NativeEngine.delete, held, NativeEngine.raising, NativeEngine.update]

theorem createPeer_settles (mirrors : Mirrors world) :
    Settles world (NativeEngine.createPeer describes answer) world := by
  unfold NativeEngine.createPeer
  refine .call_bind mirrors fun live engine present succeeded => ?_
  simp only [CEngine.succeed, Option.bind_eq_bind, Option.bind_eq_some_iff, Option.guard_eq_some',
    Option.dite_none_right_eq_some, Option.pure_def, Option.some.injEq] at succeeded
  obtain ⟨metadata, given, _, nonempty, fresh, rfl⟩ := succeeded
  have same : ∀ handle, world.native.peers.get? handle = live.peers.get? handle :=
    Mirrors.live_eq present ▸ mirrors.peers
  have unused : world.native.peers.get? answer.handle = none := by
    rw [same, fresh.get?_eq_none]
  have inStep : ∀ handle, (world.native.peers.set answer.handle ()).get? handle =
      (live.peers.add answer.handle () fresh).get? handle := by
    intro handle
    rw [OrderedDict.get?_set, HandleTable.get?_add, same]
  refine .of_live present ⟨answer.handle, metadata⟩ _ ?_ (mirrors.withPeers present _ _ inStep)
  simp [unused, fresh.1, given, nonempty, NativeEngine.update]

theorem connectPeer_settles (mirrors : Mirrors world) (peer : Int) (metadata : Bytes) :
    Settles world (NativeEngine.connectPeer describes peer metadata answer) world := by
  unfold NativeEngine.connectPeer
  by_cases empty : metadata = []
  · exact .of_raised (.valueError "connection metadata must be nonempty bytes")
      (by simp [empty]) id
  · simp only [empty, if_false]
    refine .raising_bind (toHandle_proper peer) fun peer _ => ?_
    refine .call_last mirrors fun live engine present succeeded => ?_
    simp only [CEngine.succeed, Option.bind_eq_bind, Option.bind_eq_some_iff,
      Option.guard_eq_some', Option.pure_def, Option.some.injEq] at succeeded
    obtain ⟨_, _, rfl⟩ := succeeded
    exact mirrors.withConnected present (peer :: live.connected)

/-- A handle found for an import is the handle of that import. -/
theorem get?_of_importOf {live : CEngine Region} {peer : Handle} {region : Region}
    {existing : Handle} (found : live.importOf peer region = some existing) :
    live.imports.get? existing = some (peer, region) := by
  obtain ⟨entry, search, rfl⟩ := Option.map_eq_some_iff.mp found
  have matched : entry.2 = (peer, region) := by simpa using List.find?_some search
  refine OrderedDict.get?_eq_some_iff.mpr ?_
  exact matched ▸ List.mem_of_find?_eq_some search

theorem importRemoteMemory_settles (mirrors : Mirrors world) (peer : Int) (metadata : Bytes) :
    Settles world (NativeEngine.importRemoteMemory describes peer metadata answer) world := by
  unfold NativeEngine.importRemoteMemory
  by_cases empty : metadata = []
  · exact .of_raised (.valueError "memory metadata must be nonempty bytes") (by simp [empty]) id
  simp only [empty, if_false]
  refine .raising_bind (toHandle_proper peer) fun peer _ => ?_
  refine .call_bind mirrors fun live engine present succeeded => ?_
  have same : ∀ handle,
      world.native.remoteMemories.get? handle = (live.imports.get? handle).map Prod.fst :=
    Mirrors.live_eq present ▸ mirrors.remoteMemories
  simp only [CEngine.succeed, Option.bind_eq_bind, Option.bind_eq_some_iff, Option.guard_eq_some',
    Option.pure_def] at succeeded
  obtain ⟨region, _, _, _, succeeded⟩ := succeeded
  cases found : live.importOf peer region with
  | some existing =>
      simp only [found, Option.guard_eq_some', Option.bind_eq_some_iff, Option.some.injEq]
        at succeeded
      obtain ⟨_, isExisting, rfl⟩ := succeeded
      -- The old handle comes back: its entry is assigned once more.
      have imported := get?_of_importOf found
      have held : world.native.remoteMemories.get? answer.handle = some peer := by
        rw [same, isExisting, imported, Option.map_some]
      have nonzero : answer.handle ≠ 0 :=
        isExisting ▸ HandleTable.ne_zero_of_get?_eq_some imported
      have inStep : ∀ handle, (world.native.remoteMemories.set answer.handle peer).get? handle =
          (live.imports.get? handle).map Prod.fst := by
        intro handle
        rw [OrderedDict.get?_set, ← same]
        split
        · rename_i isHandle
          rw [isHandle, held]
        · rfl
      refine .of_live present answer.handle _ ?_ (mirrors.withImports present _ _ inStep)
      simp [held, nonzero, NativeEngine.update]
  | none =>
      simp only [found, Option.dite_none_right_eq_some, Option.some.injEq] at succeeded
      obtain ⟨fresh, rfl⟩ := succeeded
      have unused : world.native.remoteMemories.get? answer.handle = none := by
        rw [same, fresh.get?_eq_none, Option.map_none]
      have inStep : ∀ handle, (world.native.remoteMemories.set answer.handle peer).get? handle =
          ((live.imports.add answer.handle (peer, region) fresh).get? handle).map Prod.fst := by
        intro handle
        rw [OrderedDict.get?_set, HandleTable.get?_add, same]
        split <;> rfl
      refine .of_live present answer.handle _ ?_ (mirrors.withImports present _ _ inStep)
      simp [unused, fresh.1, NativeEngine.update]

/-- The loop of `destroy_peer` forgets the entries of the peer among the items. -/
theorem get?_forgetImports (peer : Handle) (items : List (Handle × Handle))
    (remoteMemories : OrderedDict Handle Handle) (handle : Handle) :
    (NativeEngine.forgetImports peer items remoteMemories).get? handle =
      if (handle, peer) ∈ items then none else remoteMemories.get? handle := by
  induction items generalizing remoteMemories with
  | nil => simp [NativeEngine.forgetImports]
  | cons entry rest inductionHypothesis =>
      obtain ⟨region, owner⟩ := entry
      have step : NativeEngine.forgetImports peer ((region, owner) :: rest) remoteMemories =
          NativeEngine.forgetImports peer rest
            (if owner = peer then remoteMemories.erase region else remoteMemories) := rfl
      rw [step, inductionHypothesis]
      by_cases owned : owner = peer
      · subst owned
        by_cases isRegion : handle = region
        · simp [isRegion]
        · simp [isRegion]
      · simp [owned, Ne.symm owned]

theorem destroyPeer_settles (mirrors : Mirrors world) (peer : Int) :
    Settles world (NativeEngine.destroyPeer describes peer answer) world := by
  unfold NativeEngine.destroyPeer
  refine .raising_bind (toHandle_proper peer) fun peer _ => ?_
  refine .call_bind mirrors fun live engine present succeeded => ?_
  simp only [CEngine.succeed, Option.bind_eq_bind, Option.bind_eq_some_iff, Option.guard_eq_some',
    Option.pure_def, Option.some.injEq] at succeeded
  obtain ⟨_, isLive, rfl⟩ := succeeded
  have samePeers : ∀ handle, world.native.peers.get? handle = live.peers.get? handle :=
    Mirrors.live_eq present ▸ mirrors.peers
  have sameImports : ∀ handle,
      world.native.remoteMemories.get? handle = (live.imports.get? handle).map Prod.fst :=
    Mirrors.live_eq present ▸ mirrors.remoteMemories
  have held : (world.native.peers.get? peer).isSome := by rwa [samePeers]
  have peersInStep : ∀ handle,
      (world.native.peers.erase peer).get? handle = (live.peers.remove peer).get? handle := by
    intro handle
    rw [OrderedDict.get?_erase, HandleTable.get?_remove, samePeers]
  let items := world.native.remoteMemories.entries
  have importsInStep : ∀ handle,
      (NativeEngine.forgetImports peer items world.native.remoteMemories).get? handle =
        ((live.imports.filter fun entry => entry.1 ≠ peer).get? handle).map Prod.fst := by
    intro handle
    rw [get?_forgetImports, HandleTable.get?_filter]
    have owned : (handle, peer) ∈ items ↔ (live.imports.get? handle).map Prod.fst = some peer := by
      rw [← sameImports, OrderedDict.get?_eq_some_iff]
    rw [sameImports]
    cases imported : live.imports.get? handle with
    | none => simp
    | some entry =>
        obtain ⟨owner, region⟩ := entry
        by_cases isOwner : owner = peer <;> simp [owned, imported, isOwner]
  have forgotten := (mirrors.withPeers present _ _ peersInStep).withImports rfl _ _ importsInStep
  refine .of_live present () _ ?_ forgotten
  simp [NativeEngine.delete, held, NativeEngine.raising, NativeEngine.update, items]

theorem submitTransfer_settles (mirrors : Mirrors world) (requests : List Request) :
    Settles world (NativeEngine.submitTransfer describes requests answer) world := by
  unfold NativeEngine.submitTransfer
  refine .raising_bind (encodeRequests_proper requests) fun entries encoded => ?_
  refine .call_bind mirrors fun live engine present succeeded => ?_
  simp only [CEngine.succeed, Option.bind_eq_bind, Option.bind_eq_some_iff, Option.guard_eq_some',
    Option.dite_none_right_eq_some, Option.pure_def, Option.some.injEq] at succeeded
  obtain ⟨_, _, fresh, rfl⟩ := succeeded
  have same : ∀ handle,
      (world.native.batches.get? handle).map (List.map opcodes) = live.batches.get? handle :=
    Mirrors.live_eq present ▸ mirrors.batches
  have unused : world.native.batches.get? answer.handle = none := by
    have absent := same answer.handle
    rwa [fresh.get?_eq_none, Option.map_eq_none_iff] at absent
  have tasks := opcodes_of_encodeRequests encoded
  let operations := requests.map fun request => request.operation.type
  have inStep : ∀ handle,
      ((world.native.batches.set answer.handle operations).get? handle).map (List.map opcodes) =
        (live.batches.add answer.handle (entries.map R101Request.opcode) fresh).get? handle := by
    intro handle
    rw [OrderedDict.get?_set, HandleTable.get?_add, tasks]
    split
    · rfl
    · exact same handle
  refine .of_live present answer.handle _ ?_ (mirrors.withBatches present _ _ inStep)
  simp [unused, fresh.1, NativeEngine.update, operations]

theorem freeBatch_settles (mirrors : Mirrors world) (batch : Int) :
    Settles world (NativeEngine.freeBatch describes batch answer) world := by
  unfold NativeEngine.freeBatch
  refine .raising_bind (toHandle_proper batch) fun batch _ => ?_
  refine .call_bind mirrors fun live engine present succeeded => ?_
  simp only [CEngine.succeed, Option.bind_eq_bind, Option.bind_eq_some_iff, Option.guard_eq_some',
    Option.pure_def, Option.some.injEq] at succeeded
  obtain ⟨_, isLive, rfl⟩ := succeeded
  have same : ∀ handle,
      (world.native.batches.get? handle).map (List.map opcodes) = live.batches.get? handle :=
    Mirrors.live_eq present ▸ mirrors.batches
  have held : (world.native.batches.get? batch).isSome := by
    rw [← same, Option.isSome_map] at isLive
    exact isLive
  have inStep : ∀ handle,
      ((world.native.batches.erase batch).get? handle).map (List.map opcodes) =
        (live.batches.remove batch).get? handle := by
    intro handle
    rw [OrderedDict.get?_erase, HandleTable.get?_remove, ← same]
    split <;> rfl
  refine .of_live present () _ ?_ (mirrors.withBatches present _ _ inStep)
  simp [NativeEngine.delete, held, NativeEngine.raising, NativeEngine.update]

/-- A status query of a batch that is live changes nothing; its error, if any, is not internal. -/
theorem getTransferStatuses_settles (mirrors : Mirrors world) {batch : Int}
    {operations : List OperationType}
    (held : NativeEngine.item world.native.batches batch = .ok operations) :
    Settles world (NativeEngine.getTransferStatuses describes batch answer) world := by
  unfold NativeEngine.getTransferStatuses
  refine .get_bind ?_
  rw [held]
  have found : (NativeEngine.raising (.ok operations) : Native Region _).run world =
      .ok operations world := rfl
  refine .of_bind_ok found ?_
  refine .raising_bind (toHandle_proper batch) fun batch _ => ?_
  refine .call_bind mirrors fun live engine present succeeded => ?_
  simp only [CEngine.succeed, Option.bind_eq_bind, Option.bind_eq_some_iff, Option.guard_eq_some',
    Option.pure_def, Option.some.injEq] at succeeded
  obtain ⟨_, _, _, _, rfl⟩ := succeeded
  have unchanged : ({ world with engine := some live } : World Region) = world := by rw [← present]
  rw [unchanged]
  cases decoded : decodeStatuses answer.statuses operations with
  | ok statuses => exact .of_live present statuses world rfl mirrors
  | error error =>
      exact .of_raised error rfl (decodeFrom_proper 0 answer.statuses operations error decoded)

theorem close_settles (mirrors : Mirrors world) :
    Settles world (NativeEngine.close describes answer) world := by
  unfold NativeEngine.close
  refine .get_bind ?_
  cases isClosed : world.native.closed with
  | true => exact .of_ok () world rfl mirrors fun _ => rfl
  | false =>
      refine .call_bind mirrors fun live engine present succeeded => ?_
      obtain rfl : none = engine := Option.some.inj succeeded
      refine .of_live present () _ rfl ?_
      exact ⟨fun _ => rfl, fun _ => rfl, fun _ => rfl, fun _ => rfl, rfl⟩

/-! ### Every operation of every run

The methods are put together, and the run follows by induction on its steps.  A query of a batch
that is not live is the one operation that may raise an error of the bookkeeping, and it raises
it before the C engine is asked. -/

/-- A status query of a batch that the table does not hold raises before the C engine is asked. -/
theorem getTransferStatuses_unknown {batch : Int}
    (unknown : ∀ operations, NativeEngine.item world.native.batches batch ≠ .ok operations) :
    (NativeEngine.getTransferStatuses describes batch answer).run world =
      .error (.raised .keyError) world := by
  have raised : NativeEngine.item world.native.batches batch = .error .keyError := by
    unfold NativeEngine.item at unknown ⊢
    split at unknown
    · exact absurd rfl (unknown _)
    · rfl
  simp [NativeEngine.getTransferStatuses, raised, NativeEngine.raising]

/-- One operation from a mirrored world: the tables are in step afterwards, and if it raised,
nothing has changed and, unless a batch that is not live was queried, the error is not internal. -/
theorem NativeOperation.settles (mirrors : Mirrors world) (operation : NativeOperation)
    (named : operation.NamesBatch world) :
    Settles world (operation.run describes answer) world := by
  cases operation with
  | registerLocalMemory memory access => exact (registerLocalMemory_settles mirrors _ _).map _
  | deregisterLocalMemory memory => exact deregisterLocalMemory_settles mirrors _
  | importRemoteMemory peer metadata => exact (importRemoteMemory_settles mirrors _ _).map _
  | removeRemoteMemory remoteMemory => exact removeRemoteMemory_settles mirrors _
  | createPeer => exact (createPeer_settles mirrors).map _
  | connectPeer peer metadata => exact connectPeer_settles mirrors _ _
  | destroyPeer peer => exact destroyPeer_settles mirrors _
  | submitTransfer requests => exact (submitTransfer_settles mirrors _).map _
  | getTransferStatuses batch =>
      obtain ⟨operations, held⟩ := (namesBatch_iff mirrors).mp named
      exact (getTransferStatuses_settles mirrors held).map _
  | freeBatch batch => exact freeBatch_settles mirrors _
  | close => exact close_settles mirrors

/-- A step of the system ends a method. -/
theorem nativeSystem_step {before after : World Region} {operation : NativeOperation}
    (taken : (nativeSystem describes).step before (operation, answer) = some after) :
    (operation.run describes answer).run before = .ok () after ∨
      ∃ error, (operation.run describes answer).run before = .error (.raised error) after := by
  simp only [nativeSystem] at taken
  split at taken
  · rename_i run
    exact .inl (Option.some.inj taken ▸ run)
  · rename_i error after' run
    exact .inr ⟨error, Option.some.inj taken ▸ run⟩
  · cases taken

/-- A raising operation has changed nothing. -/
theorem raised_unchanged {before after : World Region} {operation : NativeOperation}
    (mirrors : Mirrors before) {error : Raised}
    (run : (operation.run describes answer).run before = .error (.raised error) after) :
    after = before ∧ (operation.NamesBatch before → ¬error.Internal) := by
  by_cases named : operation.NamesBatch before
  · have ends : Ends before ((operation.run describes answer).run before) :=
      (operation.settles mirrors named).ends
    rw [run] at ends
    exact ⟨ends.1, fun _ => ends.2⟩
  · refine ⟨?_, fun holds => absurd holds named⟩
    cases operation with
    | getTransferStatuses batch =>
        have unknown : (NativeEngine.getTransferStatuses describes batch answer).run before =
            .error (.raised .keyError) before :=
          getTransferStatuses_unknown fun operations held =>
            named ((namesBatch_iff mirrors).mpr ⟨operations, held⟩)
        simp only [NativeOperation.run, run_map, unknown] at run
        cases run
        rfl
    | _ => exact absurd trivial named

/-- An operation that returned left the tables in step. -/
theorem returned_mirrors {before after : World Region} {operation : NativeOperation}
    (mirrors : Mirrors before)
    (run : (operation.run describes answer).run before = .ok () after) :
    Mirrors after ∧ (before.engine = none → after = before) := by
  by_cases named : operation.NamesBatch before
  · have ends : Ends before ((operation.run describes answer).run before) :=
      (operation.settles mirrors named).ends
    rw [run] at ends
    exact ends
  · cases operation with
    | getTransferStatuses batch =>
        have unknown : (NativeEngine.getTransferStatuses describes batch answer).run before =
            .error (.raised .keyError) before :=
          getTransferStatuses_unknown fun operations held =>
            named ((namesBatch_iff mirrors).mpr ⟨operations, held⟩)
        simp only [NativeOperation.run, run_map, unknown] at run
        cases run
    | _ => exact absurd trivial named

/-- `close` returns with the adapter closed. -/
theorem closed_of_close {after : World Region}
    (run : (NativeOperation.close.run describes answer).run world = .ok () after) :
    after.native.closed = true := by
  cases isClosed : world.native.closed with
  | true =>
      simp only [NativeOperation.run, NativeEngine.close, EStateM.run_bind, EStateM.run_get,
        isClosed] at run
      cases run
      exact isClosed
  | false =>
      simp [NativeOperation.run, NativeEngine.close, isClosed, NativeEngine.update] at run
      split at run
      · cases run
        rfl
      · cases run

theorem mirrors_of_reachable
    (reached : (nativeSystem describes).Reachable (fun _ _ => True) world) : Mirrors world := by
  apply reached.invariant
  · rintro world rfl
    exact .initial
  · rintro before ⟨operation, answer⟩ after mirrors _ taken
    rcases nativeSystem_step taken with run | ⟨error, run⟩
    · exact (returned_mirrors mirrors run).1
    · exact (raised_unchanged mirrors run).1 ▸ mirrors

/-- The adapter mirrors the C engine.  In every state of every run the tables are the live sets,
and a closed adapter is empty.  An operation that raises has changed nothing, and its error is none
of the bookkeeping, unless a batch that is not live was queried; after `close` has returned the
adapter is closed, and it stays closed. -/
theorem native_engine_mirrors
    (reached : (nativeSystem describes).Reachable (fun _ _ => True) world) :
    Mirrors world ∧
    (world.native.closed = true → world.native.Empty) ∧
    ∀ (operation : NativeOperation) (answer : Answer) (after : World Region),
      (∀ error, (operation.run describes answer).run world = .error (.raised error) after →
        after = world ∧ (operation.NamesBatch world → ¬error.Internal)) ∧
      ((operation.run describes answer).run world = .ok () after →
        (operation = .close → after.native.closed = true) ∧
          (world.native.closed = true → after.native.closed = true)) := by
  have mirrors := mirrors_of_reachable reached
  refine ⟨mirrors, mirrors.empty_of_closed, fun operation answer after => ⟨?_, ?_⟩⟩
  · intro error run
    exact raised_unchanged mirrors run
  · intro run
    constructor
    · rintro rfl
      exact closed_of_close run
    · intro closed
      rw [(returned_mirrors mirrors run).2 (mirrors.engine_eq_none closed)]
      exact closed

/-- A registration, a peer with one import made twice, a batch, its status and a refused `close`. -/
def sampleRun : List (NativeOperation × Answer) :=
  [(.registerLocalMemory ⟨1, 0x1000, 64, by decide⟩ 5,
      { code := 0, handle := 31, metadata := some [1] }),
    (.createPeer, { code := 0, handle := 7, metadata := some [2] }),
    (.connectPeer 7 [3], { code := 0 }),
    (.importRemoteMemory 7 [4], { code := 0, handle := 17 }),
    (.importRemoteMemory 7 [4], { code := 0, handle := 17 }),
    (.submitTransfer [⟨7, 0x1000, 8, .recv⟩, ⟨7, 0x1000, 8, .write 0x2000⟩],
      { code := 0, handle := 10 }),
    (.getTransferStatuses 10, { code := 0, statuses := [.zero, .zero] }),
    (.close, { code := -4 })]

/-- After the sample run the peer is destroyed.  The import is gone, the rest is live. -/
theorem native_engine_mirrors_run : ∃ world : World Bytes,
    (world.native.peers.entries = [] ∧ world.native.remoteMemories.entries = [] ∧
      world.native.memories.entries.map Prod.fst = [31] ∧
      world.native.batches.entries = [(10, [.recv, .write])]) ∧
    Mirrors world ∧ (world.native.closed = true → world.native.Empty) := by
  have computed : ∃ world, (nativeSystem some).Reachable (fun _ _ => True) world ∧
      (world.native.peers.entries = [] ∧ world.native.remoteMemories.entries = [] ∧
        world.native.memories.entries.map Prod.fst = [31] ∧
        world.native.batches.entries = [(10, [.recv, .write])]) :=
    LabelledSystem.exists_reachable (.initial rfl)
      (sampleRun ++ [(.destroyPeer 7, { code := 0 })]) (by decide)
  obtain ⟨world, reached, facts⟩ := computed
  have holds := native_engine_mirrors reached
  exact ⟨world, facts, holds.1, holds.2.1⟩

end

end Rdma101.Abi
