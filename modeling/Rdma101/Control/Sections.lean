/-
Module: Rdma101.Control.Sections
Purpose: The results of the helper methods, the critical sections and the RPC handlers of a
  control plane, computed once as equations.  On a consistent control plane no native call
  trips an assertion, so none of these equations has a case for one.
Trusted boundary: none
Main exports: ControlPlane.Consistent, run_connectNative, run_importSnapshot,
  run_connectOffer, run_connectUpdate, run_connectFinish, run_disconnectDestroy, run_connect,
  run_ready, run_changed, run_close
-/
import Rdma101.Control.WellFormed
import Rdma101.Lib.SectionLogic

namespace Rdma101

open Wire

namespace ControlPlane

/-- An open control plane is well formed; a closed one holds no peer. -/
structure Consistent (control : ControlPlane) : Prop where
  opened : control.closed = false → control.WellFormed
  shut : control.closed = true → ∀ endpoint, control.peers.get? endpoint = none

/-- A control plane that holds a peer is open. -/
theorem Consistent.formed {control : ControlPlane} (consistent : control.Consistent)
    {endpoint : String} {peer : Peer} (held : control.peers.get? endpoint = some peer) :
    control.WellFormed := by
  apply consistent.opened
  cases isClosed : control.closed with
  | false => rfl
  | true => simp [consistent.shut isClosed] at held

/-! ### The helper methods

Every helper is computed on a peer of the table.  An import may stop in the middle, so its
equation says how many entries were imported. -/

variable {control : ControlPlane} {env : Environment}

@[simp] theorem run_runNative {α : Type} (call : NativeEngine.Native α) :
    (runNative call).run control =
      match call.run control.native with
      | .ok value native => .ok value { control with native := native }
      | .error error native => .error error { control with native := native } := rfl

theorem run_updatePeer {peer : Peer} {change : Peer → Peer}
    (held : control.peers.get? peer.endpoint = some peer)
    (sameEndpoint : (change peer).endpoint = peer.endpoint) :
    (updatePeer peer.endpoint change).run control =
      .ok () (control.storePeer (change peer)) := by
  simp [updatePeer, held, storePeer, sameEndpoint]

theorem run_checkOpen (control : ControlPlane) :
    checkOpen.run control =
      if control.closed then .error (.runtimeError "engine is closed") control
      else .ok () control := by
  cases isClosed : control.closed <;> simp [checkOpen, isClosed]

theorem run_createPeer (env : Environment) (control : ControlPlane) (endpoint : String) :
    (createPeer env endpoint).run control =
      match env.createPeer with
      | .error code => .error (.engineError "create_peer" code) control
      | .ok fresh =>
          .ok (freshPeer fresh endpoint env.uuid4)
            (control.addPeer (freshPeer fresh endpoint env.uuid4)) := by
  cases answer : env.createPeer <;>
    simp [createPeer, NativeEngine.createPeer, answer, freshPeer, addPeer]

theorem run_getOrCreatePeer (env : Environment) (control : ControlPlane) (endpoint : String) :
    (getOrCreatePeer env endpoint).run control =
      match control.peers.get? endpoint with
      | some peer => .ok peer control
      | none => (createPeer env endpoint).run control := by
  cases held : control.peers.get? endpoint <;> simp [getOrCreatePeer, held]

theorem run_requirePeer (control : ControlPlane) (peer : Peer) :
    (requirePeer peer).run control =
      match control.peers.get? peer.endpoint with
      | none => .error (.runtimeError "peer disconnected during handshake") control
      | some current =>
          if current.handle ≠ peer.handle then
            .error (.runtimeError "peer disconnected during handshake") control
          else .ok current control := by
  cases held : control.peers.get? peer.endpoint with
  | none => simp [requirePeer, held]
  | some current =>
      by_cases same : current.handle = peer.handle <;> simp [requirePeer, held, same]

theorem run_findConnection (control : ControlPlane) (connection : Connection) :
    (findConnection connection).run control =
      match control.peers.get? connection.endpoint with
      | none => .error (.valueError "unknown connection") control
      | some peer =>
          if connection.id = "" ∨ peer.remoteConnectionId ≠ connection.id then
            .error (.valueError "unknown connection") control
          else .ok peer control := by
  cases held : control.peers.get? connection.endpoint with
  | none => simp [findConnection, held]
  | some peer =>
      by_cases bad : connection.id = "" ∨ peer.remoteConnectionId ≠ connection.id <;>
        simp [findConnection, held, bad]

/-- `_connect_native` on a peer of the table. -/
theorem run_connectNative (env : Environment) (offer : Offer) {peer : Peer}
    (formed : control.WellFormed) (held : control.peers.get? peer.endpoint = some peer) :
    (connectNative env peer offer).run control =
      if offer.connection.endpoint ≠ peer.endpoint ∨ offer.connection.id = "" then
        .error (.valueError "unexpected connection identity") control
      else if peer.state = .created then
        match env.connectPeer with
        | .ok () => .ok () (control.joinPeer peer offer)
        | .error code =>
            .error (.engineError "connect_peer" code)
              (control.recordFailure (.connectPeer peer.handle offer.metadata false))
      else if peer.remoteConnectionId ≠ offer.connection.id then
        .error (.runtimeError "endpoint already has a different connection") control
      else .ok () control := by
  by_cases bad : offer.connection.endpoint ≠ peer.endpoint ∨ offer.connection.id = ""
  · simp [connectNative, bad]
  by_cases unconnected : peer.state = .created
  · have live := formed.backed held
    have notConnected := (formed.joined held).mp unconnected
    cases answer : env.connectPeer with
    | ok =>
        simp [connectNative, bad, unconnected, NativeEngine.connectPeer, live, notConnected,
          answer, NativeEngine.isOk, NativeEngine.check, updatePeer, held, joinPeer,
          NativeEngine.record]
    | error code =>
        simp [connectNative, bad, unconnected, NativeEngine.connectPeer, live, notConnected,
          answer, NativeEngine.isOk, NativeEngine.check, recordFailure]
  · by_cases other : peer.remoteConnectionId = offer.connection.id <;>
      simp [connectNative, bad, unconnected, other]

/-- The native import of one entry under a connected handle. -/
theorem run_importRemoteMemory {native : NativeEngine} {handle : Handle} {metadata : Bytes}
    (joined : native.connected.get? handle ≠ none) {answer : Except ErrorCode Unit} :
    (NativeEngine.importRemoteMemory answer handle metadata).run native =
      match answer with
      | .ok () => .ok () (native.importOne handle metadata)
      | .error code =>
          .error (.engineError "import_remote_memory" code)
            (native.record (.importRemoteMemory handle metadata false)) := by
  cases answer with
  | ok =>
      by_cases known : (handle, metadata) ∈ native.imports <;>
        simp [NativeEngine.importRemoteMemory, joined, NativeEngine.isOk, NativeEngine.check,
          known, NativeEngine.importOne, NativeEngine.record]
  | error code =>
      simp [NativeEngine.importRemoteMemory, joined, NativeEngine.isOk, NativeEngine.check]

/-- The import loop either imports every entry, or stops at an entry that fails. -/
theorem run_importMemories (env : Environment) (index : Nat) (memories : List Bytes)
    {control : ControlPlane} {handle : Handle}
    (joined : control.native.connected.get? handle ≠ none) :
    (importMemories env handle index memories).run control =
        .ok () { control with native := control.native.importAll handle memories } ∨
      ∃ done metadata rest code, memories = done ++ metadata :: rest ∧
        env.importFailure = some (index + done.length, code) ∧
        (importMemories env handle index memories).run control =
          .error (.engineError "import_remote_memory" code)
            { control with
              native := (control.native.importAll handle done).record
                (.importRemoteMemory handle metadata false) } := by
  induction memories generalizing control index with
  | nil => exact .inl rfl
  | cons metadata memories inductionHypothesis =>
      cases answer : env.importRemoteMemory index with
      | error code =>
          refine .inr ⟨[], metadata, memories, code, rfl, ?_, ?_⟩
          · simp only [Environment.importRemoteMemory] at answer
            split at answer
            · simp at answer
            · split at answer <;> simp_all
          · simp [importMemories, answer, run_importRemoteMemory joined,
              NativeEngine.importAll]
      | ok =>
          have stepped : (importMemories env handle index (metadata :: memories)).run control =
              (importMemories env handle (index + 1) memories).run
                { control with native := control.native.importOne handle metadata } := by
            simp [importMemories, answer, run_importRemoteMemory joined]
          have stillJoined : ({ control with
              native := control.native.importOne handle metadata } :
                ControlPlane).native.connected.get? handle ≠ none := joined
          rcases inductionHypothesis (index + 1) stillJoined with
            success | ⟨done, entry, rest, code, split, failure, failed⟩
          · exact .inl (stepped.trans success)
          · refine .inr ⟨metadata :: done, entry, rest, code, by simp [split], ?_,
              stepped.trans failed⟩
            rw [failure, List.length_cons]
            congr 2
            omega

/-- What `_import_snapshot` does to a connected peer of the table: it ignores a stale snapshot,
imports a newer one whole, or stops in the middle at a native failure. -/
theorem run_importSnapshot (env : Environment) (snapshot : Snapshot) {peer : Peer}
    (formed : control.WellFormed) (held : control.peers.get? peer.endpoint = some peer)
    (joined : peer.state ≠ .created) :
    (¬(snapshot.version : Int) > peer.remoteVersion ∧
        (importSnapshot env peer snapshot).run control =
          .ok () (control.deliver peer snapshot.version)) ∨
      ((snapshot.version : Int) > peer.remoteVersion ∧
        (importSnapshot env peer snapshot).run control =
          .ok () (((control.deliver peer snapshot.version).importMemory peer
            snapshot.memories).storePeer { peer with remoteVersion := snapshot.version })) ∨
      ((snapshot.version : Int) > peer.remoteVersion ∧
        ∃ done metadata rest code, snapshot.memories = done ++ metadata :: rest ∧
          env.importFailure = some (done.length, code) ∧
          (importSnapshot env peer snapshot).run control =
            .error (.engineError "import_remote_memory" code)
              (((control.deliver peer snapshot.version).importMemory peer done).recordFailure
                (.importRemoteMemory peer.handle metadata false))) := by
  have isConnected : control.native.connected.get? peer.handle ≠ none :=
    fun absent => joined ((formed.joined held).mpr absent)
  by_cases newer : (snapshot.version : Int) > peer.remoteVersion
  · refine .inr ?_
    have stillConnected : (control.deliver peer snapshot.version).native.connected.get?
        peer.handle ≠ none := isConnected
    rcases run_importMemories env 0 snapshot.memories stillConnected with
      success | ⟨done, metadata, rest, code, split, failure, failed⟩
    · refine .inl ⟨newer, ?_⟩
      have unfolded : (importSnapshot env peer snapshot).run control =
          (updatePeer peer.endpoint fun current =>
            { current with remoteVersion := snapshot.version }).run
            ((control.deliver peer snapshot.version).importMemory peer snapshot.memories) := by
        simp only [deliver] at success
        simp [importSnapshot, newer, success, importMemory, deliver]
      rw [unfolded]
      exact run_updatePeer held rfl
    · refine .inr ⟨newer, done, metadata, rest, code, split, by simpa using failure, ?_⟩
      simp only [deliver] at failed
      simp [importSnapshot, newer, failed, recordFailure, importMemory, deliver]
  · refine .inl ⟨newer, ?_⟩
    simp [importSnapshot, newer, deliver]

/-- The native destruction of a live handle. -/
theorem run_destroyPeer {native : NativeEngine} {handle : Handle}
    (live : native.peers.get? handle ≠ none) {answer : Except ErrorCode Unit} :
    (NativeEngine.destroyPeer answer handle).run native =
      match answer with
      | .ok () =>
          .ok () { native.record (.destroyPeer handle true) with
                   peers := native.peers.erase handle
                   connected := native.connected.erase handle
                   imports := native.imports.filter fun entry => entry.1 ≠ handle }
      | .error code =>
          .error (.engineError "destroy_peer" code)
            (native.record (.destroyPeer handle false)) := by
  cases answer <;>
    simp [NativeEngine.destroyPeer, live, NativeEngine.isOk, NativeEngine.check,
      NativeEngine.record]

theorem run_markReady {peer : Peer} (held : control.peers.get? peer.endpoint = some peer) :
    (markReady peer).run control = .ok () (control.storePeer { peer with state := .ready }) :=
  run_updatePeer held rfl

/-! ### The critical sections and the handlers

Each section is the composition of its helpers.  Later modules use these equations and do not
unfold a section again. -/

variable {advertised : String}

/-- The result of the first critical section of `connect`. -/
theorem run_connectOffer {endpoint : String} :
    (connectOffer advertised env endpoint).run control =
      if endpoint = "" ∨ endpoint = advertised then
        .error (.valueError "a different remote Engine endpoint is required") control
      else if control.closed then .error (.runtimeError "engine is closed") control
      else
        match (getOrCreatePeer env endpoint).run control with
        | .error error after => .error error after
        | .ok peer after =>
            .ok (if peer.state = .ready then .inl peer.handle else .inr peer) after := by
  by_cases bad : endpoint = "" ∨ endpoint = advertised
  · simp [connectOffer, bad]
  cases isClosed : control.closed with
  | true => simp [connectOffer, bad, run_checkOpen, isClosed]
  | false =>
      cases run : (getOrCreatePeer env endpoint).run control with
      | error error after => simp [connectOffer, bad, run_checkOpen, isClosed, run]
      | ok peer after =>
          by_cases isReady : peer.state = .ready <;>
            simp [connectOffer, bad, run_checkOpen, isClosed, run, isReady]

/-- The result of the critical section of `connect` between its two RPCs. -/
theorem run_connectUpdate {peer : Peer} {remote : Offer} :
    (connectUpdate advertised env peer remote).run control =
      match (requirePeer peer).run control with
      | .error error after => .error error after
      | .ok current after =>
          match (connectNative env current remote).run after with
          | .error error final => .error error final
          | .ok _ final =>
              .ok { connection := connection advertised peer, snapshot := final.snapshot }
                final := by
  cases required : (requirePeer peer).run control with
  | error error after => simp [connectUpdate, required]
  | ok current after =>
      cases joined : (connectNative env current remote).run after <;>
        simp [connectUpdate, required, joined]

/-- The result of the last critical section of `connect`. -/
theorem run_connectFinish {peer : Peer} {snapshot : Snapshot} :
    (connectFinish env peer snapshot).run control =
      match (requirePeer peer).run control with
      | .error error after => .error error after
      | .ok current after =>
          match (importSnapshot env current snapshot).run after with
          | .error error final => .error error final
          | .ok _ final =>
              match (markReady current).run final with
              | .error error last => .error error last
              | .ok _ last => .ok current.handle last := by
  cases required : (requirePeer peer).run control with
  | error error after => simp [connectFinish, required]
  | ok current after =>
      cases imported : (importSnapshot env current snapshot).run after with
      | error error final => simp [connectFinish, required, imported]
      | ok value final =>
          cases marked : (markReady current).run final <;>
            simp [connectFinish, required, imported, marked]

/-- The result of the first critical section of `disconnect`. -/
theorem run_disconnectDestroy (env : Environment) (handle : Handle)
    (consistent : control.Consistent) :
    (disconnectDestroy env handle).run control =
      if control.closed then .error (.runtimeError "engine is closed") control
      else
        match control.peers.values.find? fun peer => peer.handle = handle with
        | none => .error (.valueError "unknown peer") control
        | some peer =>
            match env.destroyPeer with
            | .ok () => .ok peer (control.dropPeer peer)
            | .error code =>
                .error (.engineError "destroy_peer" code)
                  (control.recordFailure (.destroyPeer peer.handle false)) := by
  cases isClosed : control.closed with
  | true => simp [disconnectDestroy, run_checkOpen, isClosed]
  | false =>
      cases found : control.peers.values.find? fun peer => peer.handle = handle with
      | none => simp [disconnectDestroy, run_checkOpen, isClosed, found]
      | some peer =>
          obtain ⟨_, key, held⟩ := OrderedDict.get?_of_find? found
          have live : control.native.peers.get? peer.handle ≠ none := by
            simp [(consistent.formed held).backed held]
          cases answer : env.destroyPeer <;>
            simp [disconnectDestroy, run_checkOpen, isClosed, found, run_destroyPeer live,
              answer, dropPeer, recordFailure]

end ControlPlane

namespace ControlServicer

open ControlPlane

variable {control : ControlPlane} {env : Environment} {advertised : String}

/-- The result of the handler of `Connect`. -/
theorem run_connect {request : Offer} :
    (connect advertised env request).run control =
      if request.connection.endpoint = "" ∨ request.connection.endpoint = advertised then
        .error (.valueError "a different remote Engine endpoint is required") control
      else if control.closed then .error (.runtimeError "engine is closed") control
      else
        match (getOrCreatePeer env request.connection.endpoint).run control with
        | .error error after => .error error after
        | .ok peer after =>
            match (connectNative env peer request).run after with
            | .error error final => .error error final
            | .ok _ final => .ok (.offer (offer advertised peer)) final := by
  by_cases bad : request.connection.endpoint = "" ∨ request.connection.endpoint = advertised
  · simp [connect, bad]
  cases isClosed : control.closed with
  | true => simp [connect, bad, run_checkOpen, isClosed]
  | false =>
      cases run : (getOrCreatePeer env request.connection.endpoint).run control with
      | error error after => simp [connect, bad, run_checkOpen, isClosed, run]
      | ok peer after =>
          cases joined : (connectNative env peer request).run after <;>
            simp [connect, bad, run_checkOpen, isClosed, run, joined]

/-- The result of the handler of `Ready`. -/
theorem run_ready {request : Update} :
    (ready env request).run control =
      if control.closed then .error (.runtimeError "engine is closed") control
      else
        match (findConnection request.connection).run control with
        | .error error after => .error error after
        | .ok peer after =>
            match (importSnapshot env peer request.snapshot).run after with
            | .error error final => .error error final
            | .ok _ final =>
                match (markReady peer).run final with
                | .error error last => .error error last
                | .ok _ last => .ok (.snapshot last.snapshot) last := by
  cases isClosed : control.closed with
  | true => simp [ready, run_checkOpen, isClosed]
  | false =>
      cases found : (findConnection request.connection).run control with
      | error error after => simp [ready, run_checkOpen, isClosed, found]
      | ok peer after =>
          cases imported : (importSnapshot env peer request.snapshot).run after with
          | error error final => simp [ready, run_checkOpen, isClosed, found, imported]
          | ok value final =>
              cases marked : (markReady peer).run final <;>
                simp [ready, run_checkOpen, isClosed, found, imported, marked]

/-- The result of the handler of `Changed`. -/
theorem run_changed {request : Update} :
    (changed env request).run control =
      if control.closed then .error (.runtimeError "engine is closed") control
      else
        match (findConnection request.connection).run control with
        | .error error after => .error error after
        | .ok peer after =>
            match (importSnapshot env peer request.snapshot).run after with
            | .error error final => .error error final
            | .ok _ final => .ok .empty final := by
  cases isClosed : control.closed with
  | true => simp [changed, run_checkOpen, isClosed]
  | false =>
      cases found : (findConnection request.connection).run control with
      | error error after => simp [changed, run_checkOpen, isClosed, found]
      | ok peer after =>
          cases imported : (importSnapshot env peer request.snapshot).run after <;>
            simp [changed, run_checkOpen, isClosed, found, imported]

/-- The result of the handler of `Close`. -/
theorem run_close (env : Environment) (request : Connection)
    (consistent : control.Consistent) :
    (close env request).run control =
      if control.closed then .error (.runtimeError "engine is closed") control
      else
        match control.peers.get? request.endpoint with
        | none => .ok .empty control
        | some peer =>
            if peer.remoteConnectionId = request.id then
              match env.destroyPeer with
              | .ok () => .ok .empty (control.dropPeer peer)
              | .error code =>
                  .error (.engineError "destroy_peer" code)
                    (control.recordFailure (.destroyPeer peer.handle false))
            else .ok .empty control := by
  cases isClosed : control.closed with
  | true => simp [close, run_checkOpen, isClosed]
  | false =>
      cases found : control.peers.get? request.endpoint with
      | none => simp [close, run_checkOpen, isClosed, found]
      | some peer =>
          have live : control.native.peers.get? peer.handle ≠ none := by
            simp [(consistent.formed found).backed found]
          by_cases same : peer.remoteConnectionId = request.id
          · cases answer : env.destroyPeer <;>
              simp [close, run_checkOpen, isClosed, found, same, run_destroyPeer live, answer,
                dropPeer, recordFailure]
          · simp [close, run_checkOpen, isClosed, found, same]

end ControlServicer

end Rdma101
