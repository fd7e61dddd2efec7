/-
Module: Rdma101.Control.FailedSetup
Purpose: Peers whose native connection setup failed.  The C API wants such a peer destroyed; the
  control plane keeps its entry, and takes it up again when it meets the entry before it is
  destroyed.
Trusted boundary: none
Main exports: Trace.SetupFailed, Trace.FailuresFinal, System.TakesUpFailed,
  failed_setup_is_final
-/
import Rdma101.Control.HandlerSteps
import Rdma101.Control.Waiting

namespace Rdma101

open Wire ControlPlane ControlServicer

/-- The call is a `connect_peer` on the handle that failed. -/
def NativeCall.FailedSetup (peer : Handle) : NativeCall → Prop
  | .connectPeer other _ ok => other = peer ∧ ok = false
  | _ => False

/-- The call is a `destroy_peer`. -/
def NativeCall.Destroys : NativeCall → Prop
  | .destroyPeer _ _ => True
  | _ => False

instance (call : NativeCall) (peer : Handle) : Decidable (call.FailedSetup peer) :=
  match call with
  | .connectPeer other _ ok => inferInstanceAs (Decidable (other = peer ∧ ok = false))
  | .createPeer _ _ | .importRemoteMemory _ _ _ | .destroyPeer _ _ => isFalse id

namespace Trace

/-- Some call of `connect_peer` on the handle has failed. -/
def SetupFailed (calls : List NativeCall) (peer : Handle) : Prop :=
  ∃ call ∈ calls, call.FailedSetup peer

instance (calls : List NativeCall) (peer : Handle) : Decidable (SetupFailed calls peer) :=
  inferInstanceAs (Decidable (∃ call ∈ calls, call.FailedSetup peer))

/-- After a failed `connect_peer` the next call on the handle is a `destroy_peer`. -/
def FailuresFinal (calls : List NativeCall) : Prop :=
  ∀ earlier failed later next, calls = earlier ++ failed :: later →
    failed.FailedSetup failed.peer → next ∈ later.find? (fun call => call.peer = failed.peer) →
    next.Destroys

@[simp] theorem setupFailed_snoc (calls : List NativeCall) (call : NativeCall) (peer : Handle) :
    SetupFailed (calls ++ [call]) peer ↔ SetupFailed calls peer ∨ call.FailedSetup peer := by
  simp [SetupFailed, or_and_right, exists_or]

theorem FailuresFinal.nil : FailuresFinal [] := by
  intro earlier failed later next split
  simp at split

/-- A call may follow when it destroys its handle, or no setup of its handle has failed. -/
theorem FailuresFinal.snoc {calls : List NativeCall} (final : FailuresFinal calls)
    {call : NativeCall} (proper : call.Destroys ∨ ¬SetupFailed calls call.peer) :
    FailuresFinal (calls ++ [call]) := by
  intro earlier failed later next split isFailure isNext
  rcases List.eq_nil_or_concat later with rfl | ⟨init, last, rfl⟩
  · simp at isNext
  · rw [List.concat_eq_append, ← List.cons_append, ← List.append_assoc,
      List.append_singleton_inj] at split
    obtain ⟨isCalls, rfl⟩ := split
    cases found : init.find? fun call => call.peer = failed.peer with
    | some earlierNext =>
        obtain rfl : earlierNext = next := by
          simpa [List.find?_append, found] using isNext
        exact final earlier failed init earlierNext isCalls isFailure found
    | none =>
        obtain ⟨samePeer, rfl⟩ : call.peer = failed.peer ∧ call = next := by
          simpa [List.find?_append, found] using isNext
        refine proper.resolve_right fun unfailed => unfailed ⟨failed, by simp [isCalls], ?_⟩
        rw [samePeer]
        exact isFailure

end Trace

/-! ### One control plane

`connect_peer` is called by one helper only, so failures stay final as long as this helper does
not meet a peer that has failed.  All other effects leave the calls on such a handle alone, or
destroy it. -/

/-- The entry for the endpoint is a peer whose connection setup failed. -/
def ControlPlane.HoldsFailed (control : ControlPlane) (endpoint : String) : Prop :=
  ∃ peer ∈ control.peers.get? endpoint, Trace.SetupFailed control.native.calls peer.handle

/-- Failures are final so far, and no connected peer has failed. -/
structure FailureSafe (control : ControlPlane) : Prop where
  final : Trace.FailuresFinal control.native.calls
  unfailed : ∀ {endpoint peer}, control.peers.get? endpoint = some peer →
    peer.state ≠ .created → ¬Trace.SetupFailed control.native.calls peer.handle

/-- What a program leaves the state in, whether it returns or raises. -/
def Leaves {σ ε α : Type} (program : EStateM ε σ α) (before after : σ) : Prop :=
  (∃ value, program.run before = .ok value after) ∨
    ∃ error, program.run before = .error error after

section Effects

variable {env : Environment} {grant : Grant} {control after : ControlPlane}

/-- No setup of a handle failed that was never made. -/
theorem ControlPlane.WellFormed.unfailed (formed : control.WellFormed) {handle : Handle}
    (unused : ∀ peer ∈ control.created, peer.handle ≠ handle) :
    ¬Trace.SetupFailed control.native.calls handle := by
  rintro ⟨call, member, isFailure⟩
  obtain ⟨origin, made, sameHandle⟩ := formed.traceCreated call member
  refine unused origin made (sameHandle.trans ?_)
  cases call <;> simp_all [NativeCall.FailedSetup, NativeCall.peer]

/-- A failed call that is not a connection setup. -/
theorem FailureSafe.record (safe : FailureSafe control) {call : NativeCall}
    (proper : call.Destroys ∨ ¬Trace.SetupFailed control.native.calls call.peer)
    (noSetup : ∀ peer, ¬call.FailedSetup peer) : FailureSafe (control.recordFailure call) :=
  ⟨safe.final.snoc proper, fun held joined failed => safe.unfailed held joined
    (((Trace.setupFailed_snoc _ _ _).mp failed).resolve_right (noSetup _))⟩

/-- An import for a peer that has not failed. -/
theorem FailureSafe.importMemory (safe : FailureSafe control) {peer : Peer}
    (unfailed : ¬Trace.SetupFailed control.native.calls peer.handle) (memories : List Bytes) :
    FailureSafe (control.importMemory peer memories) ∧
      ¬Trace.SetupFailed (control.importMemory peer memories).native.calls peer.handle := by
  induction memories generalizing control with
  | nil => exact ⟨safe, unfailed⟩
  | cons metadata memories inductionHypothesis =>
      have unchanged : ∀ handle, Trace.SetupFailed (control.native.importOne peer.handle
          metadata).calls handle → Trace.SetupFailed control.native.calls handle := by
        simp [NativeEngine.importOne, NativeCall.FailedSetup]
      have stepped : FailureSafe
          { control with native := control.native.importOne peer.handle metadata } :=
        ⟨safe.final.snoc (.inr unfailed), fun held joined failed =>
          safe.unfailed held joined (unchanged _ failed)⟩
      exact inductionHypothesis stepped fun failed => unfailed (unchanged _ failed)

/-- A connected peer is overwritten by a state of the same object. -/
theorem FailureSafe.storePeer (safe : FailureSafe control) {peer later : Peer}
    (held : control.peers.get? peer.endpoint = some peer) (joined : peer.state ≠ .created)
    (sameHandle : later.handle = peer.handle) : FailureSafe (control.storePeer later) := by
  refine ⟨safe.final, fun {key found} isFound isJoined failed => ?_⟩
  simp only [storePeer_peers, OrderedDict.get?_set] at isFound
  split at isFound
  · obtain rfl := Option.some.inj isFound
    exact safe.unfailed held joined (sameHandle ▸ failed)
  · exact safe.unfailed isFound isJoined failed

/-- Effects that connect no failed peer keep failures final. -/
theorem Effect.failureSafe (effect : Effect env grant control after)
    (consistent : control.Consistent) (safe : FailureSafe control)
    (unfailed : ∀ peer offer, grant.offers peer offer →
      ¬Trace.SetupFailed control.native.calls peer.handle) : FailureSafe after := by
  cases effect with
  | @addPeer fresh endpoint isOpen answer absent unused nonempty granted =>
      have unfailedFresh := (consistent.opened isOpen).unfailed unused
      refine ⟨safe.final.snoc (.inr unfailedFresh), fun {key peer} held joined failed => ?_⟩
      simp only [addPeer_peers, OrderedDict.get?_set] at held
      split at held
      · obtain rfl := Option.some.inj held
        exact joined rfl
      · exact safe.unfailed held joined (by simpa [NativeCall.FailedSetup] using failed)
  | @joinPeer peer offer held unconnected addressed named granted =>
      have notFailed := unfailed peer offer granted
      refine ⟨safe.final.snoc (.inr notFailed), fun {key found} isFound joined failed => ?_⟩
      have failedBefore : Trace.SetupFailed control.native.calls found.handle := by
        simpa [NativeCall.FailedSetup] using failed
      simp only [joinPeer_peers, OrderedDict.get?_set] at isFound
      split at isFound
      · obtain rfl := Option.some.inj isFound
        exact notFailed failedBefore
      · exact safe.unfailed isFound joined failedBefore
  | @joinFailed peer offer code held unconnected answer granted =>
      have notFailed := unfailed peer offer granted
      refine ⟨safe.final.snoc (.inr notFailed), fun {key found} isFound joined failed => ?_⟩
      rcases (Trace.setupFailed_snoc _ _ _).mp failed with earlier | ⟨sameHandle, _⟩
      · exact safe.unfailed isFound joined earlier
      · -- The failed peer itself is not connected.
        have isFoundHere : control.peers.get? key = some found := isFound
        obtain rfl := (consistent.formed held).handle_injective held isFoundHere sameHandle
        obtain rfl : peer = found := by simpa [held] using isFoundHere
        exact joined unconnected
  | deliver held joined stale granted => exact ⟨safe.final, safe.unfailed⟩
  | @importAll peer snapshot held joined newer granted =>
      have delivered : FailureSafe (control.deliver peer snapshot.version) :=
        ⟨safe.final, safe.unfailed⟩
      exact (delivered.importMemory (safe.unfailed held joined) snapshot.memories).1.storePeer
        held joined rfl
  | @importPart peer snapshot done rest metadata held joined newer split failed granted =>
      have delivered : FailureSafe (control.deliver peer snapshot.version) :=
        ⟨safe.final, safe.unfailed⟩
      obtain ⟨imported, stillUnfailed⟩ :=
        delivered.importMemory (safe.unfailed held joined) done
      exact imported.record (.inr stillUnfailed) (by simp [NativeCall.FailedSetup])
  | @markReady peer held joined granted => exact safe.storePeer held joined rfl
  | @dropPeer peer held granted =>
      refine ⟨safe.final.snoc (.inl trivial), fun {key found} isFound joined failed => ?_⟩
      simp only [dropPeer_peers, OrderedDict.get?_erase] at isFound
      split at isFound
      · simp at isFound
      · exact safe.unfailed isFound joined (by simpa [NativeCall.FailedSetup] using failed)
  | @dropFailed peer code held answer granted =>
      exact safe.record (.inl trivial) (by simp [NativeCall.FailedSetup])
  | append isOpen granted => exact ⟨safe.final, safe.unfailed⟩
  | register registration isOpen granted => exact ⟨safe.final, safe.unfailed⟩

/-- Sections that connect no peer keep failures final. -/
theorem Effects.failureSafe (effects : Effects env grant control after)
    (consistent : control.Consistent) (safe : FailureSafe control)
    (noOffers : ∀ peer offer, ¬grant.offers peer offer) : FailureSafe after := by
  induction effects with
  | refl => exact safe
  | tail earlier effect inductionHypothesis =>
      exact effect.failureSafe (Effects.consistent earlier consistent) inductionHypothesis
        fun peer offer granted => absurd granted (noOffers peer offer)

end Effects

section Connecting

variable {env : Environment} {advertised : String} {control after : ControlPlane}

/-- `_connect_native` keeps failures final when it does not meet a failed peer. -/
theorem connectNative_failureSafe {peer : Peer} {offer : Offer} (consistent : control.Consistent)
    (safe : FailureSafe control) (held : control.peers.get? peer.endpoint = some peer)
    (unfailed : offer.connection.endpoint = peer.endpoint →
      ¬Trace.SetupFailed control.native.calls peer.handle)
    (leaves : Leaves (connectNative env peer offer) control after) : FailureSafe after := by
  rw [Leaves, run_connectNative env offer (consistent.formed held) held] at leaves
  by_cases bad : offer.connection.endpoint ≠ peer.endpoint ∨ offer.connection.id = ""
  · simp only [if_pos bad] at leaves
    obtain rfl : control = after := by simpa using leaves
    exact safe
  rw [not_or, not_not] at bad
  by_cases unconnected : peer.state = .created
  · have granted : ∀ other given, ({ offers := fun held _ => held = peer } : Grant).offers other
        given → ¬Trace.SetupFailed control.native.calls other.handle :=
      fun _ _ same => same ▸ unfailed bad.1
    cases answer : env.connectPeer with
    | ok =>
        obtain rfl : control.joinPeer peer offer = after := by
          simpa [bad.1, bad.2, unconnected, answer] using leaves
        have effect : Effect env { offers := fun held _ => held = peer } control
            (control.joinPeer peer offer) := .joinPeer held unconnected bad.1 bad.2 rfl
        exact effect.failureSafe consistent safe granted
    | error code =>
        obtain rfl : control.recordFailure (.connectPeer peer.handle offer.metadata false) =
            after := by
          simpa [bad.1, bad.2, unconnected, answer] using leaves
        exact (Effect.joinFailed held unconnected answer rfl).failureSafe consistent safe granted
  · obtain rfl : control = after := by
      by_cases other : peer.remoteConnectionId = offer.connection.id <;>
        simpa [bad.1, bad.2, unconnected, other] using leaves
    exact safe

/-- The handler of `Connect` keeps failures final when the entry it meets has not failed. -/
theorem connect_failureSafe {request : Offer} (consistent : control.Consistent)
    (fresh : env.FreshFor control) (safe : FailureSafe control)
    (unfailed : ¬control.HoldsFailed request.connection.endpoint)
    (leaves : Leaves (connect advertised env request) control after) : FailureSafe after := by
  rw [Leaves, run_connect, run_getOrCreatePeer] at leaves
  by_cases bad : request.connection.endpoint = "" ∨ request.connection.endpoint = advertised
  · obtain rfl : control = after := by simpa [bad] using leaves
    exact safe
  cases isClosed : control.closed with
  | true =>
      obtain rfl : control = after := by simpa [bad, isClosed] using leaves
      exact safe
  | false =>
      cases held : control.peers.get? request.connection.endpoint with
      | some peer =>
          have heldThere := ((consistent.formed held).keyed held).symm ▸ held
          have connects : Leaves (connectNative env peer request) control after := by
            cases run : (connectNative env peer request).run control <;>
              simp_all [Leaves]
          exact connectNative_failureSafe consistent safe heldThere
            (fun _ failed => unfailed ⟨peer, held, failed⟩) connects
      | none =>
          cases answer : env.createPeer with
          | error code =>
              obtain rfl : control = after := by
                simpa [bad, isClosed, held, run_createPeer, answer] using leaves
              exact safe
          | ok made =>
              have unused := fresh.handle made answer
              have effect : Effect env { creates := fun _ => True } control
                  (control.addPeer (freshPeer made request.connection.endpoint env.uuid4)) :=
                .addPeer isClosed answer held unused fresh.nonempty trivial
              have connects : Leaves (connectNative env
                  (freshPeer made request.connection.endpoint env.uuid4) request)
                  (control.addPeer (freshPeer made request.connection.endpoint env.uuid4))
                  after := by
                cases run : (connectNative env
                    (freshPeer made request.connection.endpoint env.uuid4) request).run
                    (control.addPeer (freshPeer made request.connection.endpoint env.uuid4)) <;>
                  simp_all [Leaves, run_createPeer]
              refine connectNative_failureSafe (effect.consistent consistent)
                (effect.failureSafe consistent safe fun _ _ => False.elim) (by simp)
                (fun _ failed => ?_) connects
              exact (consistent.opened isClosed).unfailed unused
                (by simpa [NativeCall.FailedSetup, freshPeer] using failed)

/-- So does the section of `connect` between its two RPCs. -/
theorem connectUpdate_failureSafe {peer : Peer} {remote : Offer}
    (consistent : control.Consistent) (safe : FailureSafe control)
    (unfailed : remote.connection.endpoint = peer.endpoint →
      ∀ current ∈ control.peers.get? peer.endpoint, current.handle = peer.handle →
        ¬Trace.SetupFailed control.native.calls current.handle)
    (leaves : Leaves (connectUpdate advertised env peer remote) control after) :
    FailureSafe after := by
  rw [Leaves, run_connectUpdate, run_requirePeer] at leaves
  cases held : control.peers.get? peer.endpoint with
  | none =>
      obtain rfl : control = after := by simpa [held] using leaves
      exact safe
  | some current =>
      have sameEndpoint := (consistent.formed held).keyed held
      by_cases sameHandle : current.handle = peer.handle
      · have connects : Leaves (connectNative env current remote) control after := by
          cases run : (connectNative env current remote).run control <;>
            simp_all [Leaves]
        exact connectNative_failureSafe consistent safe (sameEndpoint.symm ▸ held)
          (fun addressed => unfailed (addressed.trans sameEndpoint) current held sameHandle)
          connects
      · obtain rfl : control = after := by simpa [held, sameHandle] using leaves
        exact safe

end Connecting

/-! ### Taking up a failed entry

Three steps can bring a failed entry back to the helper: a dial of its endpoint, an offer from
it, and a reply to an offer that was made before the failure.  These are the ones that the
condition on runs excludes. -/

variable {Node : Type}

/-- The answer lets a `connect` that waits for the reply to its offer connect a failed peer. -/
def ControlPlane.ResumesFailed (control : ControlPlane) (peer : Peer) :
    Except PyError Reply → Prop
  | .ok (.offer remote) => remote.connection.endpoint = peer.endpoint ∧
      ∃ current ∈ control.peers.get? peer.endpoint, current.handle = peer.handle ∧
        Trace.SetupFailed control.native.calls current.handle
  | _ => False

/-- The request is an offer that meets a failed entry. -/
def ControlPlane.AcceptsFailed (control : ControlPlane) : Request → Prop
  | .connect request => control.HoldsFailed request.connection.endpoint
  | _ => False

/-- The operation waits for an offer, and answer number `index` lets it connect a failed peer. -/
def System.ResumesFailed (system : System Node) (control : ControlPlane) (index : Nat) :
    Option Operation → Prop
  | some (.offering peer call) => ∃ rpc ∈ system.rpcs[call]?, ∃ answer ∈ rpc.answers[index]?,
      control.ResumesFailed peer answer
  | _ => False

/-- The action takes up an entry whose connection setup failed: `connect` dials its endpoint, an
offer arrives from it, or a `connect` gets the reply to an offer made before the failure. -/
def System.TakesUpFailed (topology : Topology Node) (system : System Node) :
    Action Node → Prop
  | .connect node endpoint _ => (system.engine node).control.HoldsFailed endpoint
  | .handle call _ => ∃ rpc ∈ system.rpcs[call]?, ∃ target ∈ topology.resolve rpc.endpoint,
      (system.engine target).control.AcceptsFailed rpc.request
  | .resume node index _ => system.ResumesFailed (system.engine node).control index
      (system.engine node).operation
  | _ => False

section Deciding

instance (control : ControlPlane) (endpoint : String) :
    Decidable (control.HoldsFailed endpoint) :=
  inferInstanceAs (Decidable (∃ peer ∈ control.peers.get? endpoint, _))

instance (control : ControlPlane) (peer : Peer) (answer : Except PyError Reply) :
    Decidable (control.ResumesFailed peer answer) :=
  match answer with
  | .ok (.offer remote) => inferInstanceAs (Decidable (remote.connection.endpoint = peer.endpoint ∧
      ∃ current ∈ control.peers.get? peer.endpoint, current.handle = peer.handle ∧
        Trace.SetupFailed control.native.calls current.handle))
  | .ok (.snapshot _) | .ok .empty | .error _ => isFalse id

instance (control : ControlPlane) (request : Request) :
    Decidable (control.AcceptsFailed request) :=
  match request with
  | .connect offer =>
      inferInstanceAs (Decidable (control.HoldsFailed offer.connection.endpoint))
  | .ready _ | .changed _ | .close _ => isFalse id

instance (system : System Node) (control : ControlPlane) (index : Nat)
    (operation : Option Operation) : Decidable (system.ResumesFailed control index operation) :=
  match operation with
  | some (.offering peer call) => inferInstanceAs (Decidable (∃ rpc ∈ system.rpcs[call]?,
      ∃ answer ∈ rpc.answers[index]?, control.ResumesFailed peer answer))
  | none | some (.updating _ _) | some (.registered _) | some (.notifying _ _ _ _ _)
  | some (.closing _ _) => isFalse id

instance (topology : Topology Node) (system : System Node) (action : Action Node) :
    Decidable (system.TakesUpFailed topology action) :=
  match action with
  | .connect node endpoint _ =>
      inferInstanceAs (Decidable ((system.engine node).control.HoldsFailed endpoint))
  | .handle call _ => inferInstanceAs (Decidable (∃ rpc ∈ system.rpcs[call]?,
      ∃ target ∈ topology.resolve rpc.endpoint,
        (system.engine target).control.AcceptsFailed rpc.request))
  | .resume node index _ => inferInstanceAs (Decidable (system.ResumesFailed
      (system.engine node).control index (system.engine node).operation))
  | .disconnect _ _ _ | .registerLocalMemory _ _ | .publish _ | .timeout _ | .close _ =>
      isFalse id

end Deciding

variable [DecidableEq Node] {topology : Topology Node} {before after : System Node}

section Stepping

variable (safe : ∀ node, FailureSafe (before.engine node).control)

include safe

theorem setEngine_failureSafe {target : Node} {engine : Engine}
    (kept : FailureSafe engine.control) (node : Node) :
    FailureSafe ((before.setEngine target engine).engine node).control := by
  rw [System.setEngine_engine]
  split
  · exact kept
  · exact safe node

/-- An offer that meets no failed entry. -/
theorem stepHandle_failureSafe {target : Node} {call : Nat} {request : Offer} {env : Environment}
    (consistent : (before.engine target).control.Consistent)
    (fresh : before.FreshFor target env)
    (unfailed : ¬(before.engine target).control.HoldsFailed request.connection.endpoint)
    (node : Node) :
    FailureSafe ((before.stepHandle topology target call (.connect request) env).engine
      node).control := by
  have kept : FailureSafe (serveResult (topology.endpoint target) env (.connect request)
      (before.engine target).control).1 := by
    have leaves : Leaves (connect (topology.endpoint target) env request)
        (before.engine target).control (serveResult (topology.endpoint target) env
          (.connect request) (before.engine target).control).1 := by
      rw [serveResult, serve, Leaves]
      cases run : (connect (topology.endpoint target) env request).run
        (before.engine target).control <;> simp
    exact connect_failureSafe consistent fresh.control (safe target) unfailed leaves
  rw [stepHandle_eq rfl]
  exact setEngine_failureSafe safe kept node

/-- An offer that comes back to no failed peer. -/
theorem stepResume_failureSafe {waiter : Node} {call : Nat} {peer : Peer} {reply : Reply}
    {env : Environment} (consistent : (before.engine waiter).control.Consistent)
    (unfailed : ¬(before.engine waiter).control.ResumesFailed peer (.ok reply))
    (taken : before.stepResume topology waiter (.offering peer call) reply env = some after)
    (node : Node) : FailureSafe (after.engine node).control := by
  cases reply with
  | snapshot => simp [System.stepResume] at taken
  | empty => simp [System.stepResume] at taken
  | offer remote =>
      have kept : ∀ control, Leaves (connectUpdate (topology.endpoint waiter) env peer remote)
          (before.engine waiter).control control → FailureSafe control :=
        fun control => connectUpdate_failureSafe consistent (safe waiter)
          fun addressed current held sameHandle failed =>
            unfailed ⟨addressed, current, held, sameHandle, failed⟩
      simp only [System.stepResume] at taken
      cases run : (connectUpdate (topology.endpoint waiter) env peer remote).run
          (before.engine waiter).control with
      | error error control =>
          simp only [run, Option.some.injEq] at taken
          subst taken
          exact setEngine_failureSafe safe (kept control (.inr ⟨error, run⟩)) node
      | ok update control =>
          simp only [run, Option.some.injEq] at taken
          subst taken
          exact setEngine_failureSafe safe (kept control (.inl ⟨update, run⟩)) node

/-- A step that takes up no failed entry keeps failures final at every node. -/
theorem step_failureSafe (authentic : Authentic topology before) {action : Action Node}
    (fresh : before.FreshNames topology action) (proper : ¬before.TakesUpFailed topology action)
    (taken : before.step topology action = some after) (node : Node) :
    FailureSafe (after.engine node).control := by
  obtain ⟨actor, others, change⟩ := (authentic.transition fresh taken).effects
  -- Every action but the two that connect a peer is covered by its effects.
  have quiet : (∀ grant, Entitled topology before action actor grant →
      ∀ peer offer, ¬grant.offers peer offer) → FailureSafe (after.engine node).control := by
    intro noOffers
    by_cases here : node = actor
    · subst here
      rcases change with ⟨grant, entitled, _, effects⟩ | ⟨_, closed⟩
      · exact Effects.failureSafe effects (authentic.consistent node) (safe node)
          (noOffers grant entitled)
      · rw [closed, ControlPlane.close]
        split
        · exact safe node
        · exact ⟨(safe node).final, fun held => by simp at held⟩
    · rw [others node here]
      exact safe node
  cases action with
  | connect => exact quiet fun grant entitled => by cases entitled <;> simp
  | disconnect => exact quiet fun grant entitled => by cases entitled <;> simp
  | registerLocalMemory => exact quiet fun grant entitled => by cases entitled <;> simp
  | publish => exact quiet fun grant entitled => by cases entitled <;> simp
  | timeout => exact quiet fun grant entitled => by cases entitled; simp
  | close => exact quiet fun grant entitled => by cases entitled; simp
  | handle call env =>
      by_cases accepts : ∃ rpc ∈ before.rpcs[call]?, ∃ request, rpc.request = .connect request
      · obtain ⟨rpc, found, request, isRequest⟩ := accepts
        have sent : before.rpcs[call]? = some rpc := found
        simp only [System.step, sent] at taken
        cases reached : topology.resolve rpc.endpoint with
        | none => simp [reached] at taken
        | some target =>
            simp only [reached, Option.some.injEq, isRequest] at taken
            subst taken
            refine stepHandle_failureSafe safe (authentic.consistent target)
              (fresh rpc found target reached) (fun failed => proper ?_) node
            exact ⟨rpc, found, target, reached, by rw [isRequest]; exact failed⟩
      · apply quiet
        intro grant entitled peer offer
        cases entitled with
        | nothing => exact id
        | @handle _ _ _ rpc sent =>
            cases isRequest : rpc.request with
            | connect request => exact absurd ⟨rpc, sent, request, isRequest⟩ accepts
            | ready | changed | close => exact id
  | resume waiter index env =>
      by_cases offers : ∃ peer call, (before.engine waiter).operation = some (.offering peer call)
      · obtain ⟨peer, call, waiting⟩ := offers
        simp only [System.step, waiting, Operation.call?, Option.bind_some] at taken
        cases answered : (before.rpcs[call]?).bind fun rpc => rpc.answers[index]? with
        | none => simp [answered] at taken
        | some answer =>
            obtain ⟨rpc, found, isAnswer⟩ := Option.bind_eq_some_iff.mp answered
            cases answer with
            | error error =>
                simp only [answered, Option.some.injEq] at taken
                subst taken
                have kept : FailureSafe ((before.engine waiter).finish
                    (before.engine waiter).control
                    (Operation.offering peer call).rpcFailed).control := safe waiter
                exact setEngine_failureSafe safe kept node
            | ok reply =>
                simp only [answered] at taken
                refine stepResume_failureSafe safe (authentic.consistent waiter)
                  (fun resumes => proper ?_) taken node
                rw [System.TakesUpFailed, waiting]
                exact ⟨rpc, found, _, isAnswer, resumes⟩
      · apply quiet
        intro grant entitled peer offer
        cases entitled with
        | nothing => exact id
        | join waiting => exact absurd ⟨_, _, waiting⟩ offers
        | finish => exact id

end Stepping

/-! ### Offers

The failed peer is not offered either: an offer is made by a dial of its endpoint, and what is
in flight for the id of the peer was sent before the failure. -/

/-- Only `connect` starts to wait for the reply to an offer, for a peer of the dialed endpoint. -/
theorem step_offering {action : Action Node} {node : Node} {peer : Peer} {call : Nat}
    (consistent : (before.engine node).control.Consistent)
    (fresh : before.FreshNames topology action)
    (taken : before.step topology action = some after)
    (idle : (before.engine node).operation = none)
    (waiting : (after.engine node).operation = some (.offering peer call)) :
    ∃ env, action = .connect node peer.endpoint env := by
  obtain ⟨endpoint, env, rfl⟩ := System.step_starts taken idle waiting
  simp only [System.step, Option.ite_none_right_eq_some, Option.some.injEq] at taken
  have performed := connectOffer_performs (topology.endpoint node) env endpoint consistent
    (System.FreshFor.control fresh)
  rw [← taken.2, System.stepConnect] at waiting
  cases run : (connectOffer (topology.endpoint node) env endpoint).run
      (before.engine node).control with
  | error error control => simp [run, Engine.finish] at waiting
  | ok result control =>
      obtain ⟨_, found, _, sameEndpoint, ⟨rfl, _⟩ | rfl⟩ := performed.ok run
      · simp [run, Engine.finish] at waiting
      · obtain ⟨rfl, _⟩ : found = peer ∧ _ := by simpa [run, Engine.proceed] using waiting
        exact ⟨env, by rw [sameEndpoint]⟩

/-- The place of an offer: the request of RPC number `call`, or one of its answers. -/
def System.OfferedAt (system : System Node) (id : String) (call : Nat) : Option Nat → Prop
  | none => ∃ rpc ∈ system.rpcs[call]?, ∃ request, rpc.request = .connect request ∧
      request.connection.id = id
  | some index => ∃ rpc ∈ system.rpcs[call]?, ∃ reply,
      rpc.answers[index]? = some (.ok (.offer reply)) ∧ reply.connection.id = id

/-- An entry that has the id of a failed peer after a step was that peer's entry before it. -/
theorem Transition.holdsFailed {action : Action Node}
    (transition : Transition topology before action after)
    (authentic : Authentic topology before) {node actor : Node} {endpoint : String}
    {origin peer : Peer} (made : origin ∈ (before.engine node).control.created)
    (failed : Trace.SetupFailed (before.engine node).control.native.calls origin.handle)
    (held : (after.engine actor).control.peers.get? endpoint = some peer)
    (sameId : peer.connectionId = origin.connectionId) :
    (before.engine actor).control.HoldsFailed endpoint := by
  obtain ⟨env, grant, fresh, evolves⟩ :=
    (transition.grows authentic.consistent).evolves actor
  rcases evolves.origin held with ⟨earlier, wasHeld, succeeds⟩ | ⟨granted, drawn, _⟩
  · obtain ⟨source, sourceMade, sameObject⟩ := (authentic.consistent actor).made wasHeld
    obtain ⟨rfl, rfl⟩ := authentic.distinctIds actor source sourceMade node origin made
      (by rw [sameObject.connectionId, ← succeeds.sameObject.connectionId, sameId])
    exact ⟨earlier, wasHeld, sameObject.handle ▸ failed⟩
  · exact absurd (sameId.symm.trans drawn) ((fresh endpoint granted).id node origin made)

/-- A step that takes up no failed entry makes no offer of a failed peer. -/
theorem Transition.offeredAt {action : Action Node}
    (transition : Transition topology before action after)
    (authentic : Authentic topology before) (names : before.FreshNames topology action)
    (proper : ¬before.TakesUpFailed topology action)
    (taken : before.step topology action = some after) {node : Node} {origin : Peer}
    (made : origin ∈ (before.engine node).control.created)
    (failed : Trace.SetupFailed (before.engine node).control.native.calls origin.handle)
    {call : Nat} {place : Option Nat} (offered : after.OfferedAt origin.connectionId call place) :
    before.OfferedAt origin.connectionId call place := by
  have notHeld : ∀ {actor endpoint peer},
      (after.engine actor).control.peers.get? endpoint = some peer →
      peer.connectionId = origin.connectionId →
      (before.engine actor).control.HoldsFailed endpoint :=
    fun held sameId => transition.holdsFailed authentic made failed held sameId
  cases transition with
  | ended => cases place <;> exact offered
  | registered => cases place <;> exact offered
  | closed => cases place <;> exact offered
  | @sent _ actor grant control operation endpoint request entitled effects sends =>
      -- The request that is sent now has no answer; as an offer it would take up the entry.
      have isNew : ∀ {rpc : Rpc Node}, before.rpcs.length ≤ call →
          (before.rpcs ++ [{ caller := actor, endpoint, request }])[call]? = some rpc →
          rpc = { caller := actor, endpoint, request } := by
        intro rpc new found
        rw [List.getElem?_append_right new] at found
        exact List.mem_singleton.mp (List.mem_of_getElem? found)
      by_cases old : call < before.rpcs.length
      · cases place <;> simpa [System.OfferedAt, List.getElem?_append_left old] using offered
      cases place with
      | none =>
          obtain ⟨rpc, found, given, isConnect, sameId⟩ := offered
          obtain rfl := isNew (Nat.le_of_not_lt old) found
          obtain rfl : request = .connect given := isConnect
          generalize isBefore : (before.engine actor).operation = previous at sends
          cases sends with
          | @offer peer held =>
              obtain ⟨env, rfl⟩ : ∃ env, action = .connect actor peer.endpoint env :=
                step_offering (authentic.consistent actor) names taken isBefore
                  (by simp only [System.send_engine, System.setEngine_engine_self]; rfl)
              exact absurd (notHeld (by simpa [Engine.proceed] using held) sameId) proper
      | some index =>
          obtain ⟨rpc, found, reply, answered, sameId⟩ := offered
          obtain rfl := isNew (Nat.le_of_not_lt old) found
          simp at answered
  | @handled number env handled target control result found reached effects replied =>
      cases place with
      | none =>
          obtain ⟨rpc, isRpc, request, isConnect, sameId⟩ := offered
          rw [System.answer_getElem?, System.setEngine_rpcs] at isRpc
          split at isRpc
          · obtain ⟨old, isOld, rfl⟩ := Option.map_eq_some_iff.mp isRpc
            exact ⟨old, isOld, request, isConnect, sameId⟩
          · exact ⟨rpc, isRpc, request, isConnect, sameId⟩
      | some index =>
          obtain ⟨rpc, isRpc, reply, answered, sameId⟩ := offered
          rw [System.answer_getElem?, System.setEngine_rpcs] at isRpc
          split at isRpc
          · rename_i here
            obtain ⟨old, isOld, rfl⟩ := Option.map_eq_some_iff.mp isRpc
            by_cases inside : index < old.answers.length
            · rw [List.getElem?_append_left inside] at answered
              exact ⟨old, isOld, reply, answered, sameId⟩
            · -- The answer given now is an offer of the entry that the request met.
              obtain rfl : handled = old := by simpa [here, found] using isOld
              rw [List.getElem?_append_right (Nat.le_of_not_lt inside)] at answered
              have isResult := List.mem_singleton.mp (List.mem_of_getElem? answered)
              cases isRequest : handled.request with
              | connect request =>
                  have isReply := replied _ isResult.symm
                  rw [isRequest] at isReply
                  obtain ⟨current, held, isOffer⟩ := isReply
                  obtain rfl := Reply.offer.inj isOffer
                  refine absurd ⟨handled, found, target, reached, ?_⟩ proper
                  rw [isRequest]
                  exact notHeld (by simpa using held) sameId
              | ready | changed | close =>
                  have isReply := replied _ isResult.symm
                  simp [isRequest, Request.Replies] at isReply
          · exact ⟨rpc, isRpc, reply, answered, sameId⟩

/-- In every run that takes up no failed entry, the next native call after a failed `connect_peer`
is a `destroy_peer` of the handle, and no offer of the failed peer is made any more. -/
theorem failed_setup_is_final {action : Action Node}
    (reached : (controlSystem topology).Reachable (fun system action =>
      system.FreshNames topology action ∧ ¬system.TakesUpFailed topology action) before)
    (names : before.FreshNames topology action) (proper : ¬before.TakesUpFailed topology action)
    (taken : (controlSystem topology).step before action = some after) :
    (∀ node, Trace.FailuresFinal (after.engine node).control.native.calls) ∧
    ∀ node, ∀ origin ∈ (before.engine node).control.created,
      Trace.SetupFailed (before.engine node).control.native.calls origin.handle →
      ∀ call place, after.OfferedAt origin.connectionId call place →
        before.OfferedAt origin.connectionId call place := by
  have authentic : ∀ system, (controlSystem topology).Reachable (fun system action =>
      system.FreshNames topology action ∧ ¬system.TakesUpFailed topology action) system →
      Authentic topology system := fun _ => authentic_of_reachable fun _ _ obeys => obeys.1
  let property (system : System Node) : Prop := ∀ node, FailureSafe (system.engine node).control
  have safe : property before := by
    refine reached.invariant_with authentic (fun state isStart => ?_) ?_
    · rw [show state = System.start from isStart]
      exact fun _ => ⟨.nil, by simp [System.start]⟩
    · exact fun _ _ _ known _ held obeys taken =>
        step_failureSafe held known obeys.1 obeys.2 taken
  have known := authentic before reached
  refine ⟨fun node => (step_failureSafe safe known names proper taken node).final, ?_⟩
  intro node origin made failed call place offered
  exact (known.transition names taken).offeredAt known names proper taken made failed offered


/-- `alpha` connects to `beta`, and its native connection setup fails. -/
def connectAndFail : List (Action Bool) :=
  [.connect false "beta" (.naming 1 "a1"), .handle 0 (.naming 1 "b1"),
    .resume false 0 { Environment.idle with connectPeer := .error .ioError }]

theorem failed_setup_is_final_pair : ∃ before after : System Bool,
    (controlSystem Topology.pair).step before (.disconnect false 1 .idle) = some after ∧
    Trace.SetupFailed (before.engine false).control.native.calls 1 ∧
    .destroyPeer 1 true ∈ (after.engine false).control.native.calls ∧
    ∀ node, Trace.FailuresFinal (after.engine node).control.native.calls := by
  have computed : ∃ before, (controlSystem Topology.pair).Reachable (fun system action =>
      system.FreshNames Topology.pair action ∧ ¬system.TakesUpFailed Topology.pair action) before ∧
      before.FreshNames Topology.pair (.disconnect false 1 .idle) ∧
      ¬before.TakesUpFailed Topology.pair (.disconnect false 1 .idle) ∧
      Trace.SetupFailed (before.engine false).control.native.calls 1 ∧
      ∃ after ∈ before.step Topology.pair (.disconnect false 1 .idle),
        .destroyPeer 1 true ∈ (after.engine false).control.native.calls :=
    LabelledSystem.exists_reachable (.initial rfl) connectAndFail (by decide)
  obtain ⟨before, reached, names, proper, failed, after, taken, destroyed⟩ := computed
  exact ⟨before, after, taken, failed, destroyed,
    (failed_setup_is_final reached names proper taken).1⟩

/-- A second `connect` offers the failed peer again and calls `connect_peer` on its handle. -/
theorem failed_setup_is_retried : ∃ system : System Bool,
    (controlSystem Topology.pair).Reachable
      (fun system action => system.FreshNames Topology.pair action) system ∧
    ¬Trace.FailuresFinal (system.engine false).control.native.calls := by
  have computed : ∃ system, (controlSystem Topology.pair).Reachable
      (fun system action => system.FreshNames Topology.pair action) system ∧
      (system.engine false).control.native.calls =
        [.createPeer 1 [1]] ++ .connectPeer 1 [1] false :: [.connectPeer 1 [1] true] :=
    LabelledSystem.exists_reachable (.initial rfl)
      (connectAndFail ++ [.connect false "beta" (.naming 2 "a2"), .handle 1 (.naming 2 "b2"),
        .resume false 0 .idle]) (by decide)
  obtain ⟨system, reached, calls⟩ := computed
  exact ⟨system, reached, fun final => final _ _ _ (.connectPeer 1 [1] true) calls ⟨rfl, rfl⟩ rfl⟩

end Rdma101
