/-
Module: Rdma101.Abi.Double
Purpose: The native double that the control plane is modelled with does what the adapter does: every
  run of the adapter over any C engine is a run of the double, with the same live registrations,
  peers, connections and imports.
Trusted boundary: none
Main exports: NativeOperation.Makes, returned_makes, NativeOperation.used, NativeOperation.double,
  Doubles, adapter_refines_double
-/
import Rdma101.Abi.Mirror
import Rdma101.Control.Sections

namespace Rdma101.Abi

/-! ### What an operation that returned has asked of the C engine

A method of the adapter that returns has made its one call of the C API and that call succeeded;
what comes before and after it is silent.  The lemmas follow the ways in which the methods are
put together, so that `returned_makes` is one line for each method. -/

/-- A call of the C API that an operation makes. -/
inductive NativeOperation.Makes : NativeOperation → CCall → Prop where
  | registerLocalMemory (memory : Memory) (access : Int) (flags : UInt32) :
      Makes (.registerLocalMemory memory access) (.registerLocalMemory memory flags)
  | deregisterLocalMemory (memory : Int) :
      Makes (.deregisterLocalMemory memory) (.deregisterLocalMemory memory.toNat)
  | importRemoteMemory (peer : Int) (metadata : Bytes) :
      Makes (.importRemoteMemory peer metadata) (.importRemoteMemory peer.toNat metadata)
  | removeRemoteMemory (remoteMemory : Int) :
      Makes (.removeRemoteMemory remoteMemory) (.removeRemoteMemory remoteMemory.toNat)
  | createPeer : Makes .createPeer .createPeer
  | connectPeer (peer : Int) (metadata : Bytes) :
      Makes (.connectPeer peer metadata) (.connectPeer peer.toNat metadata)
  | destroyPeer (peer : Int) : Makes (.destroyPeer peer) (.destroyPeer peer.toNat)
  | submitTransfer {requests : List Request} {entries : List R101Request}
      (encoded : requests.mapM encodeRequest = .ok entries) :
      Makes (.submitTransfer requests) (.submitTransfer entries)
  | getTransferStatuses (batch : Int) (count : Nat) :
      Makes (.getTransferStatuses batch) (.getTransferStatuses batch.toNat count)
  | freeBatch (batch : Int) : Makes (.freeBatch batch) (.freeBatch batch.toNat)
  | close : Makes .close .destroyEngine

section Returned

variable {Region : Type} {α β : Type} {world after : World Region}

/-- A program of the adapter that does not call the C engine. -/
def Silent (program : Native Region α) : Prop :=
  ∀ world value after, program.run world = .ok value after → after.engine = world.engine

namespace Silent

theorem pure (value : α) : Silent (pure value : Native Region α) := by
  intro world _ after run
  cases run
  rfl

theorem throw (error : Abrupt) : Silent (throw error : Native Region α) := by
  intro world _ after run
  cases run

theorem raising (computation : Except Raised α) :
    Silent (NativeEngine.raising computation : Native Region α) := by
  cases computation with
  | ok value => exact pure value
  | error error => exact throw _

theorem update (change : NativeEngine → NativeEngine) :
    Silent (NativeEngine.update change : Native Region Unit) := by
  intro world _ after run
  cases run
  rfl

theorem get : Silent (get : Native Region (World Region)) := by
  intro world _ after run
  cases run
  rfl

/-- A silent program may go on with any other. -/
theorem bind {first : Native Region α} {next : α → Native Region β} (silent : Silent first)
    (then_ : ∀ value, Silent (next value)) : Silent (first >>= next) := by
  intro world result after run
  rw [EStateM.run_bind] at run
  cases ran : first.run world with
  | error error middle => simp [ran] at run
  | ok value middle =>
      simp only [ran] at run
      rw [then_ value middle result after run, silent world value middle ran]

/-- A check that raises before the rest. -/
theorem checked {condition : Prop} [Decidable condition] {message : String}
    {rest : Unit → Native Region α} (silent : Silent (rest ())) :
    Silent (if condition then NativeEngine.throwRuntimeError message >>= rest else rest ()) := by
  split
  · intro world value after run
    cases run
  · exact silent

end Silent

/-- A method that returned has converted its argument. -/
theorem returned_raising {computation : Except Raised α} {next : α → Native Region β} {value : β}
    (run : (NativeEngine.raising computation >>= next).run world = .ok value after) :
    ∃ converted, computation = .ok converted ∧ (next converted).run world = .ok value after := by
  cases result : computation with
  | error error => simp [result, NativeEngine.raising] at run
  | ok converted =>
      rw [result] at run
      exact ⟨converted, rfl, run⟩

theorem toHandle_eq {value : Int} {handle : Handle}
    (converted : NativeEngine.toHandle value = .ok handle) : handle = value.toNat := by
  simp only [NativeEngine.toHandle, toUInt64] at converted
  split at converted
  · rename_i fits
    obtain rfl := Except.ok.inj converted
    have small : value.toNat < UInt64.size := by
      rw [UInt64.size]
      omega
    exact UInt64.toNat_ofNat_of_lt' small
  · cases converted

/-- A program that returned nothing returned something. -/
theorem run_ignoring {program : Native Region α}
    (run : ((fun _ => ()) <$> program).run world = .ok () after) :
    ∃ value, program.run world = .ok value after := by
  rw [run_map] at run
  cases ran : program.run world with
  | error error final => simp [ran] at run
  | ok value final =>
      rw [ran] at run
      cases run
      exact ⟨value, rfl⟩

variable [DecidableEq Region] {describes : Bytes → Option Region} {answer : Answer}

/-- A call of the C engine that an operation makes has succeeded, or the adapter was closed and is
closed once more. -/
def Asked (describes : Bytes → Option Region) (world : World Region) (operation : NativeOperation)
    (answer : Answer) (after : World Region) : Prop :=
  (operation = .close ∧ world.native.closed = true ∧ after = world) ∨
    ∃ live function, world.engine = some live ∧ operation.Makes function ∧
      live.succeed describes answer function = some after.engine

/-- A method that returned has returned from its call of the C engine. -/
theorem asked_of_call {name : String} {function : CCall} {next : Unit → Native Region α}
    {value : α} {operation : NativeOperation} (mirrors : Mirrors world)
    (makes : operation.Makes function)
    (run : (NativeEngine.call describes name function answer >>= next).run world =
      .ok value after)
    (silent : ∀ value, Silent (next value)) : Asked describes world operation answer after := by
  cases accepted : CEngine.accept describes world.engine function answer with
  | none => simp [NativeEngine.call, mirrors.handle, accepted] at run
  | some engine =>
      have called := Settles.run_call name (mirrors.handle.symm ▸ accepted)
      by_cases isOk : answer.code = R101.ok
      · obtain ⟨live, present, succeeded⟩ := Settles.accept_ok isOk accepted
        rw [isOk, Settles.check_ok] at called
        rw [EStateM.run_bind, called] at run
        refine .inr ⟨live, function, present, makes, ?_⟩
        rw [silent () _ value after run]
        exact succeeded
      · obtain ⟨error, raised⟩ := Settles.check_raises name isOk
        rw [raised] at called
        simp [called, NativeEngine.raising] at run

/-- What an operation that returned has asked of the C engine. -/
theorem returned_makes (mirrors : Mirrors world) {operation : NativeOperation}
    (run : (operation.run describes answer).run world = .ok () after) :
    Asked describes world operation answer after := by
  cases operation with
  | registerLocalMemory memory access =>
      obtain ⟨value, run⟩ := run_ignoring run
      unfold NativeEngine.registerLocalMemory at run
      obtain ⟨_, _, run⟩ := returned_raising run
      obtain ⟨flags, _, run⟩ := returned_raising run
      apply asked_of_call mirrors (.registerLocalMemory memory access flags) run
      intro _
      exact .bind .get fun _ => .checked <| .bind (.update _) fun _ => .checked <|
        .bind (.update _) fun _ => .pure _
  | deregisterLocalMemory memory =>
      obtain ⟨handle, converted, run⟩ := returned_raising run
      obtain rfl := toHandle_eq converted
      apply asked_of_call mirrors (.deregisterLocalMemory memory) run
      intro _
      exact .bind .get fun _ => .bind (.raising _) fun _ => .update _
  | importRemoteMemory peer metadata =>
      obtain ⟨value, run⟩ := run_ignoring run
      unfold NativeEngine.importRemoteMemory at run
      by_cases empty : metadata = []
      · simp [empty] at run
      simp only [empty, if_false] at run
      obtain ⟨handle, converted, run⟩ := returned_raising run
      obtain rfl := toHandle_eq converted
      apply asked_of_call mirrors (.importRemoteMemory peer metadata) run
      intro _
      exact .bind .get fun _ => .checked <| .bind (.update _) fun _ => .pure _
  | removeRemoteMemory remoteMemory =>
      obtain ⟨handle, converted, run⟩ := returned_raising run
      obtain rfl := toHandle_eq converted
      apply asked_of_call mirrors (.removeRemoteMemory remoteMemory) run
      intro _
      exact .bind .get fun _ => .bind (.raising _) fun _ => .update _
  | createPeer =>
      obtain ⟨value, run⟩ := run_ignoring run
      apply asked_of_call mirrors .createPeer run
      intro _
      exact .bind .get fun _ => .checked <| .checked <| .bind (.update _) fun _ => .pure _
  | connectPeer peer metadata =>
      simp only [NativeOperation.run, NativeEngine.connectPeer] at run
      by_cases empty : metadata = []
      · simp [empty] at run
      simp only [empty, if_false] at run
      obtain ⟨handle, converted, run⟩ := returned_raising run
      obtain rfl := toHandle_eq converted
      rw [← bind_pure (NativeEngine.call _ _ _ _)] at run
      exact asked_of_call mirrors (.connectPeer peer metadata) run fun _ => .pure _
  | destroyPeer peer =>
      obtain ⟨handle, converted, run⟩ := returned_raising run
      obtain rfl := toHandle_eq converted
      apply asked_of_call mirrors (.destroyPeer peer) run
      intro _
      exact .bind .get fun _ => .bind (.raising _) fun _ => .bind (.update _) fun _ => .update _
  | submitTransfer requests =>
      obtain ⟨value, run⟩ := run_ignoring run
      obtain ⟨entries, encoded, run⟩ := returned_raising run
      apply asked_of_call mirrors (.submitTransfer encoded) run
      intro _
      exact .bind .get fun _ => .checked <| .bind (.update _) fun _ => .pure _
  | getTransferStatuses batch =>
      obtain ⟨value, run⟩ := run_ignoring run
      simp only [NativeEngine.getTransferStatuses, EStateM.run_bind, EStateM.run_get] at run
      obtain ⟨operations, _, run⟩ := returned_raising run
      obtain ⟨handle, converted, run⟩ := returned_raising run
      obtain rfl := toHandle_eq converted
      exact asked_of_call mirrors (.getTransferStatuses batch operations.length) run
        fun _ => .raising _
  | freeBatch batch =>
      obtain ⟨handle, converted, run⟩ := returned_raising run
      obtain rfl := toHandle_eq converted
      apply asked_of_call mirrors (.freeBatch batch) run
      intro _
      exact .bind .get fun _ => .bind (.raising _) fun _ => .update _
  | close =>
      cases closed : world.native.closed with
      | true =>
          simp [NativeOperation.run, NativeEngine.close, closed] at run
          exact .inl ⟨rfl, closed, run.symm⟩
      | false =>
          simp only [NativeOperation.run, NativeEngine.close, EStateM.run_bind, EStateM.run_get,
            closed] at run
          exact asked_of_call mirrors .close run fun _ => .update _

end Returned

/-! ### The double

`Doubles` relates the state of the double to the C engine that the adapter runs on: the tables
have the same entries, and the trace of the double mentions only peers that the engine has
issued.  It is kept by every operation that returned, for which the double is told the answers
of the C engine; the induction over the run is on the number of operations. -/

/-- The operations that `Engine` and `ControlPlane` use. -/
def NativeOperation.used : NativeOperation → Bool
  | .deregisterLocalMemory _ | .removeRemoteMemory _ => false
  | _ => true

/-- The call of the double for an operation that returned; its environment answers as the C engine
did.  Operations that raised are not replayed.  `FakeNativeEngine` also keeps batches; the control
plane never uses them, so they are left out here and a batch operation calls nothing. -/
def NativeOperation.double (answer : Answer) :
    NativeOperation → Rdma101.NativeEngine.Native Unit
  | .registerLocalMemory _ _ => (fun _ => ()) <$>
      Rdma101.NativeEngine.registerLocalMemory
        (.ok { memory := answer.handle, metadata := answer.metadata.getD [] })
  | .createPeer => (fun _ => ()) <$>
      Rdma101.NativeEngine.createPeer
        (.ok { peer := answer.handle, metadata := answer.metadata.getD [] })
  | .connectPeer peer metadata => Rdma101.NativeEngine.connectPeer (.ok ()) peer.toNat metadata
  | .importRemoteMemory peer metadata =>
      Rdma101.NativeEngine.importRemoteMemory (.ok ()) peer.toNat metadata
  | .destroyPeer peer => Rdma101.NativeEngine.destroyPeer (.ok ()) peer.toNat
  | .close => modify Rdma101.NativeEngine.close
  | _ => pure ()

variable {Region : Type}

/-- The double holds what is live in the C engine, and its trace tells the same of the peers. -/
structure Doubles (describes : Bytes → Option Region) (native : Rdma101.NativeEngine)
    (engine : CEngine Region) : Prop where
  memories : ∀ handle,
    native.memories.get? handle = (engine.registrations.get? handle).map Prod.snd
  peers : ∀ handle, (native.peers.get? handle).isSome = (engine.peers.get? handle).isSome
  connected : ∀ handle, (native.connected.get? handle).isSome = true ↔
    (engine.peers.get? handle).isSome = true ∧ handle ∈ engine.connected
  imports : ∀ peer region,
    (∃ metadata, (peer, metadata) ∈ native.imports ∧ describes metadata = some region) ↔
      ∃ handle, engine.imports.get? handle = some (peer, region)
  alive : ∀ handle, Trace.Live native.calls handle ↔ (engine.peers.get? handle).isSome = true
  joined : ∀ handle, Trace.Connected native.calls handle ↔ handle ∈ engine.connected
  mentioned : ∀ call ∈ native.calls, call.peer ∈ engine.peers.issued
  disciplined : Trace.Disciplined native.calls

/-- The double stands for a C engine; for one that is gone it is empty. -/
def StandsFor (describes : Bytes → Option Region) (native : Rdma101.NativeEngine) :
    Option (CEngine Region) → Prop
  | some live => Doubles describes native live
  | none => native = native.close ∧ Trace.Disciplined native.calls

section Doubled

variable {describes : Bytes → Option Region} {answer : Answer} {native : Rdma101.NativeEngine}
  {live : CEngine Region} {engine : Option (CEngine Region)}

/-- A new double stands for a new C engine. -/
theorem Doubles.start : Doubles describes {} ({} : CEngine Region) where
  memories _ := rfl
  peers _ := rfl
  connected _ := by simp
  imports _ _ := by simp
  alive _ := by simp [Trace.Live]
  joined _ := by simp [Trace.Connected]
  mentioned _ member := by simp at member
  disciplined := .nil

/-- A live handle has been issued. -/
theorem Doubles.issued (doubles : Doubles describes native live) {handle : Handle}
    (isLive : (live.peers.get? handle).isSome = true) : handle ∈ live.peers.issued := by
  obtain ⟨⟨metadata, made⟩, -⟩ := (doubles.alive handle).mpr isLive
  exact doubles.mentioned (.createPeer handle metadata) made

/-- The double returns and stands for the engine that the C call has left. -/
def Follows (describes : Bytes → Option Region) (native : Rdma101.NativeEngine)
    (method : Rdma101.NativeEngine.Native Unit) (engine : Option (CEngine Region)) : Prop :=
  ∃ after, method.run native = .ok () after ∧ StandsFor describes after engine

/-- The operations that do not touch peers, imports and registrations. -/
theorem Doubles.untouched (doubles : Doubles describes native live) {after : CEngine Region}
    (sameRegistrations : after.registrations = live.registrations)
    (sameImports : after.imports = live.imports) (samePeers : after.peers = live.peers)
    (sameConnected : after.connected = live.connected) : Doubles describes native after := by
  obtain ⟨_, _, _, _, _⟩ := after
  subst sameRegistrations sameImports samePeers sameConnected
  exact ⟨doubles.memories, doubles.peers, doubles.connected, doubles.imports, doubles.alive,
    doubles.joined, doubles.mentioned, doubles.disciplined⟩

variable [DecidableEq Region]

/-- The double keeps the metadata of a registration under the handle that the C engine gave. -/
theorem Doubles.registerLocalMemory (doubles : Doubles describes native live)
    {memory : Memory} {access : Int} {flags : UInt32}
    (succeeded : live.succeed describes answer (.registerLocalMemory memory flags) =
      some engine) :
    Follows describes native ((NativeOperation.registerLocalMemory memory access).double answer)
      engine := by
  simp only [CEngine.succeed, Option.bind_eq_bind, Option.bind_eq_some_iff, Option.guard_eq_some',
    Option.dite_none_right_eq_some, Option.pure_def, Option.some.injEq] at succeeded
  obtain ⟨metadata, given, _, _, fresh, rfl⟩ := succeeded
  refine ⟨_, rfl, { doubles with memories := fun handle => ?_ }⟩
  simp only [given, Option.getD_some, OrderedDict.get?_set, HandleTable.get?_add]
  split
  · rfl
  · exact doubles.memories handle

/-- The handle of a new peer is new to the double, so the call of a live peer is not repeated. -/
theorem Doubles.createPeer (doubles : Doubles describes native live)
    (succeeded : live.succeed describes answer .createPeer = some engine) :
    Follows describes native (NativeOperation.createPeer.double answer) engine := by
  simp only [CEngine.succeed, Option.bind_eq_bind, Option.bind_eq_some_iff, Option.guard_eq_some',
    Option.dite_none_right_eq_some, Option.pure_def, Option.some.injEq] at succeeded
  obtain ⟨metadata, given, _, _, fresh, rfl⟩ := succeeded
  have unmentioned : ∀ call ∈ native.calls, call.peer ≠ answer.handle :=
    fun call member same => fresh.2.2 (same ▸ doubles.mentioned call member)
  have notJoined : answer.handle ∉ live.connected := by
    intro member
    obtain ⟨data, called⟩ := (doubles.joined answer.handle).mpr member
    exact unmentioned _ called rfl
  have notDestroyed : .destroyPeer answer.handle true ∉ native.calls :=
    fun called => unmentioned _ called rfl
  refine ⟨_, rfl, ?_⟩
  exact
    { memories := doubles.memories
      peers := fun handle => by
        simp only [OrderedDict.get?_set, HandleTable.get?_add]
        split
        · rfl
        · exact doubles.peers handle
      connected := fun handle => by
        have before := doubles.connected handle
        simp only [HandleTable.get?_add]
        by_cases new : handle = answer.handle
        · subst new
          simpa [notJoined] using before
        · rwa [if_neg new]
      imports := doubles.imports
      alive := fun handle => by
        simp only [NativeEngine.record, Trace.live_snoc_createPeer, HandleTable.get?_add]
        by_cases new : handle = answer.handle
        · simp [new, notDestroyed]
        · simpa [new, Trace.Live] using doubles.alive handle
      joined := fun handle => by simpa [Rdma101.NativeEngine.record] using doubles.joined handle
      mentioned := fun call member => by
        rcases List.mem_append.mp member with earlier | last
        · exact .tail _ (doubles.mentioned call earlier)
        · rw [List.mem_singleton.mp last]
          exact .head _
      disciplined := doubles.disciplined.snoc unmentioned }

/-- The peer is live and not connected, which is what the double asserts. -/
theorem Doubles.connectPeer (doubles : Doubles describes native live) {peer : Int}
    {metadata : Bytes}
    (succeeded : live.succeed describes answer (.connectPeer peer.toNat metadata) =
      some engine) :
    Follows describes native ((NativeOperation.connectPeer peer metadata).double answer)
      engine := by
  simp only [CEngine.succeed, Option.bind_eq_bind, Option.bind_eq_some_iff, Option.guard_eq_some',
    Option.pure_def, Option.some.injEq] at succeeded
  obtain ⟨_, ⟨_, isLive, notConnected⟩, rfl⟩ := succeeded
  have known : native.peers.get? peer.toNat ≠ none := by
    rw [← Option.isSome_iff_ne_none, doubles.peers, isLive]
  have free : native.connected.get? peer.toNat = none := by
    have joined := doubles.connected peer.toNat
    simpa [notConnected] using joined
  have legal : Trace.Legal native.calls (.connectPeer peer.toNat metadata true) :=
    ⟨(doubles.alive _).mpr isLive, fun joined => notConnected ((doubles.joined _).mp joined)⟩
  refine ⟨{ native.record (.connectPeer peer.toNat metadata true) with
      connected := native.connected.set peer.toNat metadata }, ?_, ?_⟩
  · simp [NativeOperation.double, Rdma101.NativeEngine.connectPeer, known, free,
      Rdma101.NativeEngine.check, Rdma101.NativeEngine.isOk]
  · exact
      { memories := doubles.memories
        peers := doubles.peers
        connected := fun handle => by
          have before := doubles.connected handle
          simp only [OrderedDict.get?_set, List.mem_cons]
          by_cases same : handle = peer.toNat
          · simp [same, isLive]
          · rw [if_neg same]
            simpa [same] using before
        imports := doubles.imports
        alive := fun handle => by
          simpa [Rdma101.NativeEngine.record] using doubles.alive handle
        joined := fun handle => by
          simp [Rdma101.NativeEngine.record, doubles.joined handle, or_comm]
        mentioned := fun call member => by
          rcases List.mem_append.mp member with earlier | last
          · exact doubles.mentioned call earlier
          · obtain rfl := List.mem_singleton.mp last
            exact doubles.issued isLive
        disciplined := doubles.disciplined.snoc legal }

/-- The double has one import for a peer and its metadata, the C engine one for a peer and its
region; an import that is made twice changes neither. -/
theorem Doubles.importRemoteMemory (doubles : Doubles describes native live) {peer : Int}
    {metadata : Bytes}
    (succeeded : live.succeed describes answer (.importRemoteMemory peer.toNat metadata) =
      some engine) :
    Follows describes native ((NativeOperation.importRemoteMemory peer metadata).double answer)
      engine := by
  simp only [CEngine.succeed, Option.bind_eq_bind, Option.bind_eq_some_iff, Option.guard_eq_some',
    Option.pure_def] at succeeded
  obtain ⟨region, described, _, ⟨isLive, isConnected⟩, succeeded⟩ := succeeded
  have held : native.connected.get? peer.toNat ≠ none := by
    rw [← Option.isSome_iff_ne_none, doubles.connected]
    exact ⟨isLive, isConnected⟩
  have legal : Trace.Legal native.calls (.importRemoteMemory peer.toNat metadata true) :=
    ⟨(doubles.alive _).mpr isLive, (doubles.joined _).mpr isConnected⟩
  -- The imports of the engine afterwards are the earlier ones and this one.
  obtain ⟨after, rfl, isAfter, imported⟩ : ∃ after, engine = some after ∧
      after = { live with imports := after.imports } ∧ ∀ owner part,
        (∃ handle, after.imports.get? handle = some (owner, part)) ↔
          (owner, part) = (peer.toNat, region) ∨
            ∃ handle, live.imports.get? handle = some (owner, part) := by
    cases found : live.importOf peer.toNat region with
    | some existing =>
        simp only [found, Option.guard_eq_some', Option.bind_eq_some_iff, Option.some.injEq]
          at succeeded
        obtain ⟨_, _, rfl⟩ := succeeded
        refine ⟨live, rfl, rfl, fun owner part => ⟨.inr, ?_⟩⟩
        rintro (same | earlier)
        · exact ⟨existing, by rw [get?_of_importOf found, same]⟩
        · exact earlier
    | none =>
        simp only [found, Option.dite_none_right_eq_some, Option.some.injEq] at succeeded
        obtain ⟨fresh, rfl⟩ := succeeded
        refine ⟨_, rfl, rfl, fun owner part => ?_⟩
        simp only [HandleTable.get?_add]
        constructor
        · rintro ⟨handle, added⟩
          split at added
          · exact .inl (Option.some.inj added).symm
          · exact .inr ⟨handle, added⟩
        · rintro (same | ⟨handle, earlier⟩)
          · exact ⟨answer.handle, by rw [if_pos rfl, same]⟩
          · refine ⟨handle, ?_⟩
            have other : handle ≠ answer.handle := by
              rintro rfl
              rw [fresh.get?_eq_none] at earlier
              cases earlier
            rw [if_neg other, earlier]
  have mentioned : ∀ call ∈ native.calls ++ [.importRemoteMemory peer.toNat metadata true],
      call.peer ∈ after.peers.issued := by
    intro call member
    rw [isAfter]
    rcases List.mem_append.mp member with earlier | last
    · exact doubles.mentioned call earlier
    · obtain rfl := List.mem_singleton.mp last
      exact doubles.issued isLive
  have entries : ∀ entry, entry ∈ (native.importOne peer.toNat metadata).imports ↔
      entry ∈ native.imports ∨ entry = (peer.toNat, metadata) := by
    intro entry
    simp only [Rdma101.NativeEngine.importOne]
    split
    · constructor
      · exact .inl
      · rintro (earlier | rfl)
        · exact earlier
        · assumption
    · simp
  refine ⟨_, ControlPlane.run_importRemoteMemory held, ?_⟩
  exact
    { memories := by
        rw [isAfter]
        exact doubles.memories
      peers := by
        rw [isAfter]
        exact doubles.peers
      connected := by
        rw [isAfter]
        exact doubles.connected
      imports := fun owner part => by
        rw [imported, ← doubles.imports]
        constructor
        · rintro ⟨data, member, isPart⟩
          rcases (entries _).mp member with earlier | new
          · exact .inr ⟨data, earlier, isPart⟩
          · obtain ⟨rfl, rfl⟩ := Prod.mk.inj new
            rw [described] at isPart
            exact .inl (by rw [Option.some.inj isPart])
        · rintro (new | ⟨data, earlier, isPart⟩)
          · obtain ⟨rfl, rfl⟩ := Prod.mk.inj new
            exact ⟨metadata, (entries _).mpr (.inr rfl), described⟩
          · exact ⟨data, (entries _).mpr (.inl earlier), isPart⟩
      alive := fun handle => by
        rw [isAfter]
        simpa [Rdma101.NativeEngine.importOne, Rdma101.NativeEngine.record] using
          doubles.alive handle
      joined := fun handle => by
        rw [isAfter]
        simpa [Rdma101.NativeEngine.importOne, Rdma101.NativeEngine.record] using
          doubles.joined handle
      mentioned := mentioned
      disciplined := doubles.disciplined.snoc legal }

/-- The imports of the peer go with it, on both sides. -/
theorem Doubles.destroyPeer (doubles : Doubles describes native live) {peer : Int}
    (succeeded : live.succeed describes answer (.destroyPeer peer.toNat) = some engine) :
    Follows describes native ((NativeOperation.destroyPeer peer).double answer) engine := by
  simp only [CEngine.succeed, Option.bind_eq_bind, Option.bind_eq_some_iff, Option.guard_eq_some',
    Option.pure_def, Option.some.injEq] at succeeded
  obtain ⟨_, isLive, rfl⟩ := succeeded
  have known : native.peers.get? peer.toNat ≠ none := by
    rw [← Option.isSome_iff_ne_none, doubles.peers, isLive]
  have legal : Trace.Legal native.calls (.destroyPeer peer.toNat true) :=
    (doubles.alive _).mpr isLive
  refine ⟨{ native.record (.destroyPeer peer.toNat true) with
      peers := native.peers.erase peer.toNat
      connected := native.connected.erase peer.toNat
      imports := native.imports.filter fun entry => entry.1 ≠ peer.toNat }, ?_, ?_⟩
  · simp [NativeOperation.double, Rdma101.NativeEngine.destroyPeer, known,
      Rdma101.NativeEngine.check, Rdma101.NativeEngine.isOk]
  · exact
      { memories := doubles.memories
        peers := fun handle => by
          simp only [OrderedDict.get?_erase, HandleTable.get?_remove]
          split
          · rfl
          · exact doubles.peers handle
        connected := fun handle => by
          have before := doubles.connected handle
          simp only [OrderedDict.get?_erase, HandleTable.get?_remove]
          by_cases same : handle = peer.toNat
          · simp [same]
          · rwa [if_neg same, if_neg same]
        imports := fun owner part => by
          have before := doubles.imports owner part
          simp only [List.mem_filter, HandleTable.get?_filter, Option.filter_eq_some_iff,
            decide_eq_true_eq]
          by_cases same : owner = peer.toNat
          · simp [same]
          · simpa [same] using before
        alive := fun handle => by
          simp only [Rdma101.NativeEngine.record, Trace.live_snoc_destroyPeer,
            doubles.alive handle, HandleTable.get?_remove]
          by_cases same : handle = peer.toNat <;> simp [same]
        joined := fun handle => by
          simpa [Rdma101.NativeEngine.record] using doubles.joined handle
        mentioned := fun call member => by
          rcases List.mem_append.mp member with earlier | last
          · exact doubles.mentioned call earlier
          · obtain rfl := List.mem_singleton.mp last
            exact doubles.issued isLive
        disciplined := doubles.disciplined.snoc legal }

/-- A call of the C engine that succeeded can be made on the double, too. -/
theorem Doubles.follows (doubles : Doubles describes native live) {operation : NativeOperation}
    {function : CCall} (used : operation.used = true) (makes : operation.Makes function)
    (succeeded : live.succeed describes answer function = some engine) :
    Follows describes native (operation.double answer) engine := by
  cases makes with
  | registerLocalMemory memory access flags => exact doubles.registerLocalMemory succeeded
  | deregisterLocalMemory memory => cases used
  | importRemoteMemory peer metadata => exact doubles.importRemoteMemory succeeded
  | removeRemoteMemory remoteMemory => cases used
  | createPeer => exact doubles.createPeer succeeded
  | connectPeer peer metadata => exact doubles.connectPeer succeeded
  | destroyPeer peer => exact doubles.destroyPeer succeeded
  | submitTransfer encoded =>
      simp only [CEngine.succeed, Option.bind_eq_bind, Option.bind_eq_some_iff,
        Option.guard_eq_some', Option.dite_none_right_eq_some, Option.pure_def,
        Option.some.injEq] at succeeded
      obtain ⟨_, _, _, rfl⟩ := succeeded
      exact ⟨native, rfl, doubles.untouched rfl rfl rfl rfl⟩
  | getTransferStatuses batch count =>
      simp only [CEngine.succeed, Option.bind_eq_bind, Option.bind_eq_some_iff,
        Option.guard_eq_some', Option.pure_def, Option.some.injEq] at succeeded
      obtain ⟨_, _, _, _, rfl⟩ := succeeded
      exact ⟨native, rfl, doubles⟩
  | freeBatch batch =>
      simp only [CEngine.succeed, Option.bind_eq_bind, Option.bind_eq_some_iff,
        Option.guard_eq_some', Option.pure_def, Option.some.injEq] at succeeded
      obtain ⟨_, _, rfl⟩ := succeeded
      exact ⟨native, rfl, doubles.untouched rfl rfl rfl rfl⟩
  | close =>
      obtain rfl : none = engine := Option.some.inj succeeded
      exact ⟨native.close, rfl, rfl, doubles.disciplined⟩

/-- The operations of a run that returned, with the answers of the C engine. -/
def returned (describes : Bytes → Option Region) :
    World Region → List (NativeOperation × Answer) → List (NativeOperation × Answer)
  | _, [] => []
  | world, (operation, answer) :: labels =>
      match (operation.run describes answer).run world with
      | .ok _ after => (operation, answer) :: returned describes after labels
      | .error _ after => returned describes after labels

/-- The calls of the double for a list of operations. -/
def replay (labels : List (NativeOperation × Answer)) : Rdma101.NativeEngine.Native Unit :=
  labels.forM fun label => label.1.double label.2

/-- A replay runs the first operation and then the others. -/
theorem replay_cons {label : NativeOperation × Answer} {labels : List (NativeOperation × Answer)}
    {middle : Rdma101.NativeEngine} (ran : (label.1.double label.2).run native = .ok () middle) :
    (replay (label :: labels)).run native = (replay labels).run middle := by
  simp [replay, ran]

/-- An operation that returned can be made on the double, too. -/
theorem returned_follows {before after : World Region} {operation : NativeOperation}
    (mirrors : Mirrors before) (stands : StandsFor describes native before.engine)
    (used : operation.used = true)
    (run : (operation.run describes answer).run before = .ok () after) :
    Follows describes native (operation.double answer) after.engine := by
  rcases returned_makes mirrors run with ⟨rfl, closed, rfl⟩ |
    ⟨live, function, present, makes, succeeded⟩
  · have gone := mirrors.engine_eq_none closed
    rw [gone] at stands ⊢
    exact ⟨native.close, rfl, rfl, stands.2⟩
  · rw [present] at stands
    exact Doubles.follows stands used makes succeeded

/-- The runs from a world that the double stands for. -/
theorem replay_stands {labels : List (NativeOperation × Answer)} {before world : World Region}
    (mirrors : Mirrors before) (stands : StandsFor describes native before.engine)
    (ran : (nativeSystem describes).execute (fun _ label => label.1.used = true) before labels =
      some world) :
    ∃ after, (replay (returned describes before labels)).run native = .ok () after ∧
      StandsFor describes after world.engine := by
  induction labels generalizing before native with
  | nil =>
      obtain rfl := Option.some.inj ran
      exact ⟨native, rfl, stands⟩
  | cons label labels inductionHypothesis =>
      obtain ⟨operation, answer⟩ := label
      simp only [LabelledSystem.execute] at ran
      split at ran
      · rename_i used
        split at ran
        · cases ran
        rename_i next taken
        rcases nativeSystem_step taken with run | ⟨error, raised⟩
        · have mirrors' := (returned_mirrors mirrors run).1
          obtain ⟨native', doubled, stands'⟩ := returned_follows mirrors stands used run
          simp only [returned, run]
          rw [replay_cons doubled]
          exact inductionHypothesis mirrors' stands' ran
        · obtain ⟨rfl, -⟩ := raised_unchanged mirrors raised
          simp only [returned, raised]
          exact inductionHypothesis mirrors stands ran
      · cases ran

/-- The adapter refines the double.  Every run of the adapter over any C engine, in which memories
and imports are not given up one by one, can be replayed on the double: no assertion fails, and the
double holds exactly the registrations, peers, connections and imports that are live. -/
theorem adapter_refines_double {labels : List (NativeOperation × Answer)} {world : World Region}
    (ran : (nativeSystem describes).execute (fun _ label => label.1.used = true) {} labels =
      some world) :
    ∃ native, (replay (returned describes {} labels)).run {} = .ok () native ∧
      StandsFor describes native world.engine :=
  replay_stands .initial .start ran

/-- The double of the sample run, with its registration and its import. -/
theorem adapter_refines_double_run : ∃ native,
    (replay (returned some {} sampleRun)).run {} = .ok () native ∧
      native.memories.get? 31 = some [1] ∧ (7, [4]) ∈ native.imports := by
  have computed : ∃ world ∈ (nativeSystem some).execute (fun _ label => label.1.used = true) {}
        sampleRun,
      (world.live.registrations.get? 31).map Prod.snd = some [1] ∧
      world.live.imports.get? 17 = some (7, [4]) ∧ world.engine.isSome = true := by
    decide
  obtain ⟨world, ran, registered, imported, present⟩ := computed
  obtain ⟨live, isLive⟩ := Option.isSome_iff_exists.mp present
  obtain ⟨native, replayed, stands⟩ := adapter_refines_double ran
  rw [isLive] at stands
  rw [Mirrors.live_eq isLive] at registered imported
  obtain ⟨metadata, member, same⟩ := (stands.imports 7 [4]).mpr ⟨17, imported⟩
  obtain rfl := Option.some.inj same
  exact ⟨native, replayed, (stands.memories 31).trans registered, member⟩

end Doubled

end Rdma101.Abi
