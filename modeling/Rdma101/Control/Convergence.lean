/-
Module: Rdma101.Control.Convergence
Purpose: Runs without disconnects converge: nothing raises, every node makes one peer for each
  node it is connected with, and at rest the two peers are ready, wired to each other, and have
  imported each other's registrations.
Trusted boundary: none
Main exports: Quiet, quiet_of_reachable, convergence
-/
import Rdma101.Control.HalfOpen
import Rdma101.Control.NativeSafety

namespace Rdma101

open Wire ControlPlane Session

/-- An operation that raised. -/
def Outcome.Raised : Outcome → Prop
  | .connect _ (.error _) | .register (.error _) | .publish _ (.error _)
  | .disconnect _ (.error _) => True
  | _ => False

/-- An engine none of whose operations raised.  What it appended to its list was published, or is
being published. -/
structure Engine.Settled (engine : Engine) : Prop where
  outcomes : ∀ outcome ∈ engine.outcomes, ¬outcome.Raised
  published : ∀ metadata ∈ engine.control.memoryMetadata,
    .publish metadata (.ok ()) ∈ engine.outcomes ∨
      ∃ snapshot peer rest call,
        engine.operation = some (.notifying metadata snapshot peer rest call)

variable {Node : Type}

/-- No operation and no handler raised. -/
structure System.Quiet (system : System Node) : Prop where
  answers : ∀ rpc ∈ system.rpcs, ∀ error, .error error ∉ rpc.answers
  settled : ∀ node, (system.engine node).Settled

theorem System.quiet_start : (System.start : System Node).Quiet := by
  constructor
  · simp [System.start]
  · exact fun _ => ⟨by simp [System.start], by simp [System.start]⟩

section Engines

variable {engine : Engine} {control : ControlPlane} {operation : Operation} {outcome : Outcome}

theorem Engine.Settled.finish (settled : engine.Settled)
    (sameMemories : control.memoryMetadata = engine.control.memoryMetadata)
    (returned : ¬outcome.Raised)
    (published : ∀ metadata snapshot peer rest call,
      engine.operation = some (.notifying metadata snapshot peer rest call) →
      outcome = .publish metadata (.ok ())) : (engine.finish control outcome).Settled where
  outcomes := by
    intro other member
    rcases List.mem_append.mp member with old | new
    · exact settled.outcomes other old
    · exact List.mem_singleton.mp new ▸ returned
  published := by
    intro metadata member
    rcases settled.published metadata (sameMemories ▸ member) with
      old | ⟨snapshot, peer, rest, call, running⟩
    · exact .inl (List.mem_append_left _ old)
    · exact .inl (List.mem_append_right _
        (by simp [published metadata snapshot peer rest call running]))

theorem Engine.Settled.proceed (settled : engine.Settled)
    (sameMemories : control.memoryMetadata = engine.control.memoryMetadata)
    (published : ∀ metadata snapshot peer rest call,
      engine.operation = some (.notifying metadata snapshot peer rest call) →
      ∃ snapshot peer rest call, operation = .notifying metadata snapshot peer rest call) :
    (engine.proceed control operation).Settled where
  outcomes := settled.outcomes
  published := by
    intro metadata member
    rcases settled.published metadata (sameMemories ▸ member) with
      old | ⟨snapshot, peer, rest, call, running⟩
    · exact .inl old
    · obtain ⟨snapshot', peer', rest', call', goesOn⟩ :=
        published metadata snapshot peer rest call running
      exact .inr ⟨snapshot', peer', rest', call', by rw [Engine.proceed, goesOn]⟩

end Engines

variable {topology : Topology Node} {before after : System Node} {action : Action Node}
  {node other : Node} {env : Environment}

/-- A section of one node, which sends at most. -/
theorem System.Quiet.of_section (quiet : before.Quiet)
    (others : ∀ one, one ≠ node → after.engine one = before.engine one)
    (sent : ∃ more, after.rpcs = before.rpcs ++ more ∧ ∀ rpc ∈ more, rpc.answers = [])
    (settled : (after.engine node).Settled) : after.Quiet where
  answers := by
    obtain ⟨more, isSent, unanswered⟩ := sent
    intro rpc member error
    rcases List.mem_append.mp (isSent ▸ member) with old | new
    · exact quiet.answers rpc old error
    · simp [unanswered rpc new]
  settled := by
    intro one
    by_cases here : one = node
    · exact here ▸ settled
    · exact others one here ▸ quiet.settled one

/-- The operation of a node is about the node of its target. -/
theorem Authentic.targets (authentic : Authentic topology before)
    (made : MadeForNodes topology before) {operation : Operation} {call : Nat}
    (running : (before.engine node).operation = some operation)
    (isCall : operation.call? = some call) :
    ∃ other, node ≠ other ∧ operation.target? = some (topology.endpoint other) := by
  obtain ⟨rpc, found, rfl, isTarget⟩ := (authentic.operations node operation running).sent isCall
  obtain ⟨origin, member, isEndpoint, _⟩ := authentic.requests rpc (List.mem_of_getElem? found)
  obtain ⟨target, different, isDialed⟩ := made rpc.caller origin member
  exact ⟨target, different.symm, by rw [isTarget, ← isEndpoint, isDialed]⟩

/-- A call that is calm was not answered with an error. -/
theorem calm_answers_ok {operation : Operation} {rpcs : List (Rpc Node)} {endpoint : String}
    {call : Nat} {mine theirs : Option (Link String)} {error : PyError}
    (calm : Calm (operation.callTo rpcs endpoint) mine theirs)
    (isCall : operation.call? = some call) (isTarget : operation.target? = some endpoint) :
    answersOf rpcs call ≠ [.error error] := by
  intro failed
  cases operation with
  | registered => simp [Operation.call?] at isCall
  | offering peer number =>
      obtain rfl : number = call := by simpa [Operation.call?] using isCall
      have here : peer.endpoint = endpoint := by simpa [Operation.target?] using isTarget
      exact (calm.offering peer.connectionId .failed
        (by simp [Operation.callTo, here, failed, statusOf])).1 rfl
  | updating peer number =>
      obtain rfl : number = call := by simpa [Operation.call?] using isCall
      have here : peer.endpoint = endpoint := by simpa [Operation.target?] using isTarget
      exact (calm.updating peer.connectionId (sentVersion rpcs number) .failed
        (by simp [Operation.callTo, here, failed, statusOf])).1 rfl
  | notifying metadata snapshot peer rest number =>
      obtain rfl : number = call := by simpa [Operation.call?] using isCall
      have here : peer.endpoint = endpoint := by simpa [Operation.target?] using isTarget
      exact (calm.told metadata snapshot.version peer.connectionId .failed
        (by simp [Operation.callTo, here, failed, statusOf])).1 rfl
  | closing peer number =>
      obtain rfl : number = call := by simpa [Operation.call?] using isCall
      have here : peer.endpoint = endpoint := by simpa [Operation.target?] using isTarget
      exact calm.unclosed peer.connectionId .failed
        (by simp [Operation.callTo, here, failed, statusOf])

variable [DecidableEq Node]

/-- The loop of `publish` keeps the engine settled. -/
theorem notify_settled {control : ControlPlane} {metadata : Bytes} {snapshot : Snapshot}
    {peers : List Peer} (settled : (before.engine node).Settled)
    (memories : ∀ other ∈ control.memoryMetadata,
      other ∈ (before.engine node).control.memoryMetadata ∨ other = metadata)
    (running : ∀ other snapshot peer rest call,
      (before.engine node).operation = some (.notifying other snapshot peer rest call) →
      other = metadata) :
    ((before.notify topology node control metadata snapshot peers).engine node).Settled := by
  have earlier : ∀ other ∈ control.memoryMetadata,
      .publish other (.ok ()) ∈ (before.engine node).outcomes ∨ other = metadata := by
    intro other member
    rcases memories other member with old | new
    · rcases settled.published other old with returned | ⟨snapshot, peer, rest, call, isRunning⟩
      · exact .inl returned
      · exact .inr (running other snapshot peer rest call isRunning)
    · exact .inr new
  cases peers with
  | nil =>
      rw [System.notify, System.setEngine_engine_self]
      refine ⟨fun outcome member => ?_, fun other member => ?_⟩
      · rcases List.mem_append.mp member with old | new
        · exact settled.outcomes outcome old
        · simp [List.mem_singleton.mp new, Outcome.Raised]
      · rcases earlier other member with returned | rfl
        · exact .inl (List.mem_append_left _ returned)
        · exact .inl (List.mem_append_right _ (by simp))
  | cons peer rest =>
      rw [System.notify, System.send_engine, System.setEngine_engine_self]
      refine ⟨settled.outcomes, fun other member => ?_⟩
      rcases earlier other member with returned | rfl
      · exact .inl returned
      · exact .inr ⟨_, _, _, _, rfl⟩

/-- Any two nodes are at peace with each other. -/
def System.AtPeace (topology : Topology Node) (system : System Node) : Prop :=
  ∀ node other, node ≠ other → Peaceful (system.view topology node other).near
    (system.view topology node other).far

/-- The second section of `connect` finds the peer that it offered. -/
theorem resumeOffering_settled {peer : Peer} {call : Nat} {remote : Offer}
    (authentic : Authentic topology before) (waiting : before.Waiting)
    (made : MadeForNodes topology before) (peace : before.AtPeace topology)
    (succeeds : env.Succeeds) (settled : (before.engine node).Settled)
    (running : (before.engine node).operation = some (.offering peer call))
    (answered : answersOf before.rpcs call = [.ok (.offer remote)])
    (taken : before.stepResume topology node (.offering peer call) (.offer remote) env =
      some after) : (after.engine node).Settled := by
  have sideBefore := fun endpoint => Engine.sideTo_running running before.rpcs endpoint
  have isPeer := (authentic.operations node _ running).1
  obtain ⟨other, different, isTarget⟩ := authentic.targets made running rfl
  have here : peer.endpoint = topology.endpoint other := by simpa [Operation.target?] using isTarget
  obtain ⟨addressed, named⟩ := authentic.offer_addressed waiting made running answered
  simp only [System.stepResume] at taken
  rcases connectUpdate_smooth (topology.endpoint node) succeeds (authentic.consistent node)
    addressed named with
    ⟨current, control, computed, _, _, _, rewrites⟩ | ⟨⟨error, computed⟩, stuck⟩
  · simp only [computed, Option.some.injEq] at taken
    subst taken
    rw [System.send_engine, System.setEngine_engine_self]
    exact settled.proceed rewrites.memories (by simp [running])
  · -- The link of the answer is there, and free or connected to the answer.
    have calling : ((before.engine node).sideTo before.rpcs (topology.endpoint other)).call =
        some (.offering peer.connectionId (.answered remote.connection.id)) := by
      simp [sideBefore, Operation.callTo, here, answered, statusOf, Reply.offeredId?]
    obtain ⟨link, isLink, sameId, joins⟩ :=
      (peace node other different).answer_taken (peace other node different.symm) calling
    simp only [System.view, sideBefore] at isLink
    obtain ⟨current, held, rfl⟩ := get?_of_linkTo isLink
    exact absurd (Peer.joins_iff.mpr joins) (stuck current (here.symm ▸ held)
      ((authentic.sameObject isPeer held).mp sameId))

/-- The last section of `connect` finds the peer that it updated. -/
theorem resumeUpdating_settled {peer : Peer} {call : Nat} {snapshot : Snapshot}
    (authentic : Authentic topology before) (made : MadeForNodes topology before)
    (peace : before.AtPeace topology) (succeeds : env.Succeeds)
    (settled : (before.engine node).Settled)
    (running : (before.engine node).operation = some (.updating peer call))
    (taken : before.stepResume topology node (.updating peer call) (.snapshot snapshot) env =
      some after) : (after.engine node).Settled := by
  have sideBefore := fun endpoint => Engine.sideTo_running running before.rpcs endpoint
  obtain ⟨isPeer, _, joined⟩ := authentic.operations node _ running
  obtain ⟨other, different, isTarget⟩ := authentic.targets made running rfl
  have here : peer.endpoint = topology.endpoint other := by simpa [Operation.target?] using isTarget
  simp only [System.stepResume] at taken
  rcases connectFinish_smooth succeeds (authentic.consistent node) snapshot joined with
    ⟨current, control, computed, _, _, rewrites⟩ | ⟨⟨error, computed⟩, gone⟩
  · simp only [computed, Option.some.injEq] at taken
    subst taken
    rw [System.setEngine_engine_self]
    exact settled.finish rewrites.memories (by simp [Outcome.Raised]) (by simp [running])
  · obtain ⟨link, isLink, sameId⟩ := ((peace node other different).calm.updating peer.connectionId
      (sentVersion before.rpcs call) (statusOf Reply.version? (answersOf before.rpcs call))
      (by simp [System.view, sideBefore, Operation.callTo, here])).2.1
    simp only [System.view, sideBefore] at isLink
    obtain ⟨current, held, rfl⟩ := get?_of_linkTo isLink
    exact absurd ((authentic.sameObject isPeer held).mp sameId)
      (gone current (here.symm ▸ held))

/-- An operation that goes on does not raise. -/
theorem stepResume_settled {operation : Operation} {call : Nat} {reply : Reply}
    (authentic : Authentic topology before) (waiting : before.Waiting)
    (made : MadeForNodes topology before) (peace : before.AtPeace topology)
    (succeeds : env.Succeeds) (settled : (before.engine node).Settled)
    (running : (before.engine node).operation = some operation)
    (isCall : operation.call? = some call) (answered : answersOf before.rpcs call = [.ok reply])
    (taken : before.stepResume topology node operation reply env = some after) :
    (after.engine node).Settled := by
  cases operation with
  | registered => simp [Operation.call?] at isCall
  | offering peer number =>
      obtain rfl : number = call := by simpa [Operation.call?] using isCall
      cases reply with
      | offer remote =>
          exact resumeOffering_settled authentic waiting made peace succeeds settled running
            answered taken
      | snapshot => simp [System.stepResume] at taken
      | empty => simp [System.stepResume] at taken
  | updating peer number =>
      cases reply with
      | snapshot snapshot =>
          exact resumeUpdating_settled authentic made peace succeeds settled running taken
      | offer => simp [System.stepResume] at taken
      | empty => simp [System.stepResume] at taken
  | notifying metadata snapshot peer rest number =>
      cases reply with
      | empty =>
          simp only [System.stepResume, Option.some.injEq] at taken
          subst taken
          exact notify_settled settled (fun _ member => .inl member)
            (by simp +contextual [running])
      | offer => simp [System.stepResume] at taken
      | snapshot => simp [System.stepResume] at taken
  | closing peer number =>
      cases reply with
      | empty =>
          simp only [System.stepResume, Option.some.injEq] at taken
          subst taken
          rw [System.setEngine_engine_self]
          exact settled.finish rfl (by simp [Outcome.Raised]) (by simp [running])
      | offer => simp [System.stepResume] at taken
      | snapshot => simp [System.stepResume] at taken

/-- A handler does not raise: the call would have failed. -/
theorem stepHandle_quiet {call : Nat} {rpc : Rpc Node} {target : Node}
    (authentic : Authentic topology before) (waiting : before.Waiting)
    (made : MadeForNodes topology before) (succeeds : env.Succeeds)
    (fresh : before.FreshFor target env) (found : before.rpcs[call]? = some rpc)
    (unanswered : rpc.answers = []) (reached : topology.resolve rpc.endpoint = some target)
    (isAfter : after = before.stepHandle topology target call rpc.request env)
    (peace : after.AtPeace topology) (quiet : before.Quiet) : after.Quiet := by
  obtain ⟨notCaller, isEndpoint⟩ := authentic.addressed made found reached
  obtain ⟨control, result, served, computed⟩ := stepHandle_served authentic waiting made succeeds
    fresh found reached
  rw [computed] at isAfter
  obtain ⟨_, _, rewrites, _⟩ := served.rewrites
  constructor
  · intro other member error isError
    obtain ⟨index, isOther⟩ := List.mem_iff_getElem?.mp member
    rw [isAfter, System.answer_getElem?, System.setEngine_rpcs] at isOther
    split at isOther
    · rename_i here
      rw [here, found, Option.map_some, Option.some.injEq] at isOther
      obtain rfl : result = .error error := by
        simpa [← isOther, unanswered, eq_comm] using isError
      obtain ⟨operation, running, isCall⟩ := waiting.waits call rpc found unanswered
      obtain ⟨sent, isSent, _, isTarget⟩ :=
        (authentic.operations rpc.caller operation running).sent isCall
      obtain rfl : rpc = sent := by simpa [found] using isSent
      have runningAfter : (after.engine rpc.caller).operation = some operation := by
        simp [isAfter, System.setEngine_engine, notCaller.symm, running]
      have answered : answersOf after.rpcs call = [.error error] := by
        simp [answersOf, isAfter, System.answer_getElem?, found, unanswered]
      have calm := (peace rpc.caller target notCaller.symm).calm
      rw [System.view, Engine.sideTo_running runningAfter] at calm
      exact calm_answers_ok calm isCall (isTarget.trans (congrArg some isEndpoint)) answered
    · exact quiet.answers other (List.mem_of_getElem? isOther) error isError
  · intro one
    rw [isAfter, System.answer_engine, System.setEngine_engine]
    split
    · rename_i here
      subst here
      exact ⟨(quiet.settled one).outcomes, fun metadata member =>
        (quiet.settled one).published metadata (rewrites.memories ▸ member)⟩
    · exact quiet.settled one

/-- No step raises. -/
theorem step_quiet (authentic : Authentic topology before) (waiting : before.Waiting)
    (made : MadeForNodes topology before) (peace : before.AtPeace topology)
    (peaceAfter : after.AtPeace topology) (undisturbed : before.Undisturbed topology action)
    (dials : System.DialsOthers topology action) (keepsPeers : action.KeepsPeers)
    (quiet : before.Quiet) (taken : before.step topology action = some after) : after.Quiet := by
  have transition := authentic.transition undisturbed.fresh taken
  cases action with
  | connect actor endpoint env =>
      have succeeds : env.Succeeds := undisturbed.succeeds
      have sent := transition.local (by simp)
      simp only [System.step, Option.ite_none_right_eq_some, Option.some.injEq] at taken
      obtain ⟨idle, rfl⟩ := taken
      apply quiet.of_section (fun one elsewhere => System.stepConnect_engine elsewhere _) sent
      obtain ⟨target, different, rfl⟩ := dials
      have remote : ¬(topology.endpoint target = "" ∨
          topology.endpoint target = topology.endpoint actor) := by
        rintro (empty | same)
        · exact topology.endpoint_ne_empty target empty
        · exact different (topology.endpoint_injective same)
      obtain ⟨result, control, computed, offers⟩ :=
        connectOffer_smooth succeeds (waiting.opened actor) remote
      simp only [System.stepConnect, computed]
      cases offers with
      | ready =>
          rw [System.setEngine_engine_self]
          exact (quiet.settled actor).finish rfl (by simp [Outcome.Raised]) (by simp [idle])
      | again =>
          rw [System.send_engine, System.setEngine_engine_self]
          exact (quiet.settled actor).proceed rfl (by simp [idle])
      | new absent rewrites =>
          rw [System.send_engine, System.setEngine_engine_self]
          exact (quiet.settled actor).proceed rewrites.memories (by simp [idle])
  | disconnect => exact keepsPeers.elim
  | registerLocalMemory actor env =>
      have succeeds : env.Succeeds := undisturbed.succeeds
      have sent := transition.local (by simp)
      simp only [System.step, Option.ite_none_right_eq_some, Option.some.injEq] at taken
      obtain ⟨idle, rfl⟩ := taken
      apply quiet.of_section (fun one elsewhere => System.stepRegister_engine elsewhere) sent
      obtain ⟨registration, control, computed, _, sameMemories, _⟩ :=
        registerLocalMemory_smooth succeeds (waiting.opened actor)
      simp only [System.stepRegister, computed, System.setEngine_engine_self]
      exact (quiet.settled actor).proceed sameMemories (by simp [idle])
  | publish actor =>
      have sent := transition.local (by simp)
      simp only [System.step] at taken
      split at taken
      · rename_i metadata registered
        rw [Option.some.injEq] at taken
        subst taken
        apply quiet.of_section (fun one elsewhere => System.stepPublish_engine elsewhere _) sent
        simp only [System.stepPublish, publishAppend_smooth (waiting.opened actor)]
        exact notify_settled (quiet.settled actor)
          (fun other member => by simpa using member) (by simp [registered])
      · simp at taken
  | handle call env =>
      have succeeds : env.Succeeds := undisturbed.succeeds
      have fresh := undisturbed.fresh
      have reliable := undisturbed.reliable
      simp only [System.step] at taken
      split at taken
      · simp at taken
      · rename_i rpc found
        split at taken
        · simp at taken
        · rename_i target reached
          rw [Option.some.injEq] at taken
          exact stepHandle_quiet authentic waiting made succeeds
            (fresh rpc (by simp [found]) target (by simp [reached])) found
            (reliable rpc (by simp [found])) reached taken.symm peaceAfter quiet
  | resume actor index env =>
      have succeeds : env.Succeeds := undisturbed.succeeds
      have sent := transition.local (by simp)
      simp only [System.step] at taken
      split at taken
      · simp at taken
      · rename_i operation running
        cases isCall : operation.call? with
        | none => simp [isCall] at taken
        | some call =>
            rw [isCall] at taken
            cases found : before.rpcs[call]? with
            | none => simp [found] at taken
            | some rpc =>
                simp only [Option.bind_some, found] at taken
                split at taken
                · simp at taken
                · rename_i error answered
                  exact absurd (List.mem_of_getElem? answered)
                    (quiet.answers rpc (List.mem_of_getElem? found) error)
                · rename_i reply answered
                  exact quiet.of_section
                    (fun one elsewhere => System.stepResume_engine elsewhere taken) sent
                    (stepResume_settled authentic waiting made peace succeeds
                      (quiet.settled actor) running isCall (waiting.answersOf_eq found answered)
                      taken)
  | timeout actor => exact undisturbed.reliable.elim
  | close actor => exact undisturbed.keepsOpen.elim

section Lasting

variable {system : System Node}

theorem peace_of_reachable
    (reached : (controlSystem topology).Reachable (System.Lasting topology) system) :
    system.AtPeace topology := by
  intro node other different
  refine views_of_reachable Rules.lasting (fun _ _ obeys => obeys.undisturbed) Peaceful.start
    (fun act => act.peaceful) ?_ reached different
  intro state action _ obeys one another _
  constructor
  · rintro handle env peer rfl
    exact obeys.keepsPeers.elim
  · exact fun _ _ _ _ _ _ _ _ _ => trivial

theorem quiet_of_reachable
    (reached : (controlSystem topology).Reachable (System.Lasting topology) system) :
    system.Quiet := by
  have fresh : ∀ (state : System Node) (action : Action Node),
      state.Lasting topology action → state.FreshNames topology action :=
    fun _ _ obeys => obeys.undisturbed.fresh
  have known : ∀ state, (controlSystem topology).Reachable (System.Lasting topology) state →
      Authentic topology state ∧ state.Waiting ∧ MadeForNodes topology state ∧
        state.AtPeace topology :=
    fun state earlier => ⟨authentic_of_reachable fresh earlier,
      waiting_of_reachable (fun _ _ obeys => obeys.undisturbed) earlier,
      madeForNodes_of_reachable fresh (fun _ _ obeys => obeys.undisturbed.advertised) earlier,
      peace_of_reachable earlier⟩
  refine reached.invariant_with known (fun state isStart => ?_) ?_
  · exact (show state = System.start from isStart) ▸ System.quiet_start
  · rintro before action after ⟨authentic, waiting, made, peace⟩ ⟨_, _, _, peaceAfter⟩ quiet obeys
      taken
    exact step_quiet authentic waiting made peace peaceAfter obeys.undisturbed obeys.dialsOthers
      obeys.keepsPeers quiet taken

end Lasting

/-- No peer object was made twice. -/
theorem Transition.created_nodup (transition : Transition topology before action after)
    (distinct : ∀ one, ((before.engine one).control.created.map Peer.connectionId).Nodup)
    (one : Node) : ((after.engine one).control.created.map Peer.connectionId).Nodup := by
  obtain ⟨actor, others, change⟩ := transition.effects
  by_cases here : one = actor
  · subst here
    rcases change with ⟨grant, _, fresh, effects⟩ | ⟨_, closed⟩
    · rcases Effects.created_cases effects with same | ⟨made, endpoint, _, granted, grown⟩
      · rw [same]
        exact distinct one
      · rw [grown, List.map_append, List.nodup_append]
        refine ⟨distinct one, by simp, ?_⟩
        rintro _ member id isNew rfl
        obtain ⟨peer, isOld, sameId⟩ := List.mem_map.mp member
        exact (fresh endpoint granted).id one peer isOld
          (sameId.trans (by simpa [freshPeer] using isNew))
    · have same : (after.engine one).control.created = (before.engine one).control.created := by
        rw [closed]
        cases isClosed : (before.engine one).control.closed <;> simp [ControlPlane.close, isClosed]
      rw [same]
      exact distinct one
  · rw [others one here]
    exact distinct one

theorem created_nodup_of_reachable {allowed : System Node → Action Node → Prop}
    (fresh : ∀ system action, allowed system action → system.FreshNames topology action)
    {system : System Node} (reached : (controlSystem topology).Reachable allowed system)
    (node : Node) : ((system.engine node).control.created.map Peer.connectionId).Nodup := by
  let distinct (state : System Node) : Prop :=
    ∀ one, ((state.engine one).control.created.map Peer.connectionId).Nodup
  have holds : distinct system := by
    refine reached.invariant_with (fun _ => authentic_of_reachable fresh)
      (fun state isStart => ?_) ?_
    · rw [show state = System.start from isStart]
      simp [distinct, System.start]
    · intro before action after authentic _ holds obeys taken
      exact (authentic.transition (fresh before action obeys) taken).created_nodup holds
  exact holds node

/-- A call that connects the peer with the handle. -/
def NativeCall.connects (handle : Handle) : NativeCall → Bool
  | .connectPeer peer _ _ => peer = handle
  | _ => false

/-- When no native call fails, a peer is connected once. -/
theorem NativeDiscipline.connectedOnce {control : ControlPlane}
    (discipline : NativeDiscipline control) (handle : Handle) :
    control.native.calls.countP (·.connects handle) ≤ 1 := by
  by_cases found : ∃ call ∈ control.native.calls, call.connects handle = true
  · obtain ⟨call, member, connects⟩ := found
    obtain ⟨metadata, rfl⟩ : ∃ metadata, call = .connectPeer handle metadata true := by
      have succeeded := discipline.succeeded call member
      cases call <;> simp_all [NativeCall.connects, NativeCall.Succeeded]
    have only : ∀ other ∈ control.native.calls, other.connects handle = true ↔
        (other == .connectPeer handle metadata true) = true := by
      intro other otherMember
      rw [beq_iff_eq]
      refine ⟨fun connectsToo => ?_, fun same => by simp [same, NativeCall.connects]⟩
      obtain ⟨more, rfl⟩ : ∃ more, other = .connectPeer handle more true := by
        have succeeded := discipline.succeeded other otherMember
        cases other <;> simp_all [NativeCall.connects, NativeCall.Succeeded]
      rw [discipline.disciplined.connected_unique otherMember member]
    rw [List.countP_congr only]
    exact discipline.disciplined.connected_at_most_once handle metadata
  · rw [List.countP_eq_zero.mpr fun call member connects => found ⟨call, member, connects⟩]
    exact Nat.zero_le 1

section Lasting

variable {system : System Node}

/-- Two peer objects that a node made for one endpoint are one, and its table still holds it. -/
theorem kept_of_reachable
    (reached : (controlSystem topology).Reachable (System.Lasting topology) system)
    {origin : Peer} (member : origin ∈ (system.engine node).control.created) :
    ∃ peer, (system.engine node).control.peers.get? origin.endpoint = some peer ∧
      peer.handle = origin.handle ∧ peer.connectionId = origin.connectionId := by
  have fresh : ∀ (state : System Node) (action : Action Node),
      state.Lasting topology action → state.FreshNames topology action :=
    fun _ _ obeys => obeys.undisturbed.fresh
  have authentic := authentic_of_reachable fresh reached
  obtain ⟨target, different, isEndpoint⟩ := madeForNodes_of_reachable fresh
    (fun _ _ obeys => obeys.undisturbed.advertised) reached node origin member
  obtain ⟨link, isLink, sameId⟩ := (peace_of_reachable reached node target different.symm).kept
    origin.connectionId ⟨origin, member, isEndpoint, rfl⟩
  obtain ⟨peer, held, rfl⟩ := get?_of_linkTo isLink
  refine ⟨peer, isEndpoint ▸ held, ?_, sameId⟩
  exact (authentic.sameObject ⟨origin, member, .refl origin⟩ held).mp sameId

/-- What one node does for each of the others, in a run without disconnects. -/
structure OnePeerEach (engine : Engine) : Prop where
  created : (engine.control.created.map Peer.endpoint).Nodup
  connected : ∀ handle, engine.control.native.calls.countP (·.connects handle) ≤ 1
  returned : ∀ endpoint first second, .connect endpoint (.ok first) ∈ engine.outcomes →
    .connect endpoint (.ok second) ∈ engine.outcomes → first = second

theorem onePeerEach_of_reachable
    (reached : (controlSystem topology).Reachable (System.Lasting topology) system)
    (node : Node) : OnePeerEach (system.engine node) := by
  have fresh : ∀ (state : System Node) (action : Action Node),
      state.Lasting topology action → state.FreshNames topology action :=
    fun _ _ obeys => obeys.undisturbed.fresh
  have authentic := authentic_of_reachable fresh reached
  have distinct := created_nodup_of_reachable fresh reached node
  have sameEndpoint : ∀ first ∈ (system.engine node).control.created,
      ∀ second ∈ (system.engine node).control.created, first.endpoint = second.endpoint →
      first.connectionId = second.connectionId ∧ first.handle = second.handle := by
    intro first firstMember second secondMember same
    obtain ⟨peer, held, sameHandle, sameId⟩ := kept_of_reachable reached firstMember
    obtain ⟨other, otherHeld, otherHandle, otherId⟩ := kept_of_reachable reached secondMember
    obtain rfl : peer = other := by simpa [← same, held] using otherHeld
    exact ⟨sameId.symm.trans otherId, sameHandle.symm.trans otherHandle⟩
  refine ⟨?_, fun handle => ?_, fun endpoint first second firstReturned secondReturned => ?_⟩
  · rw [List.Nodup, List.pairwise_map] at distinct ⊢
    refine distinct.imp_of_mem fun firstMember secondMember different same => ?_
    exact different (sameEndpoint _ firstMember _ secondMember same).1
  · have isOpen := (waiting_of_reachable (fun _ _ obeys => obeys.undisturbed) reached).opened node
    have safe : (controlSystem topology).Reachable (fun system action =>
        system.FreshNames topology action ∧ action.NativeSucceeds) system :=
      reached.mono fun _ _ obeys => ⟨obeys.undisturbed.fresh, obeys.undisturbed.succeeds⟩
    exact ((native_calls_disciplined safe).1 node isOpen).connectedOnce handle
  · have returned := returned_ready fresh reached node endpoint
    obtain ⟨⟨origin, member, sameHandle, isEndpoint⟩, _⟩ := returned first firstReturned
    obtain ⟨⟨other, otherMember, otherHandle, otherEndpoint⟩, _⟩ := returned second secondReturned
    rw [← sameHandle, ← otherHandle]
    exact (sameEndpoint origin member other otherMember (isEndpoint.trans otherEndpoint.symm)).2

/-- What a node has of another one at rest: one ready peer, wired to the peer of the other node,
with exactly the metadata that the other node registered imported. -/
structure JoinedTo (topology : Topology Node) (system : System Node) (node other : Node)
    (peer theirs : Peer) : Prop where
  held : (system.engine node).control.peers.get? (topology.endpoint other) = some peer
  only : ∀ key entry, (system.engine node).control.peers.get? key = some entry →
    entry.endpoint = topology.endpoint other → entry = peer
  isReady : peer.state = .ready
  connected : (system.engine node).control.native.connected.get? peer.handle =
    some theirs.metadata
  imports : ∀ metadata, (peer.handle, metadata) ∈ (system.engine node).control.native.imports ↔
    metadata ∈ (system.engine other).control.memoryMetadata
  registered : ∀ metadata, metadata ∈ (system.engine other).control.memoryMetadata ↔
    .publish metadata (.ok ()) ∈ (system.engine other).outcomes

/-- At rest a ready peer is joined to the peer of the other node. -/
theorem JoinedTo.of_ready
    (reached : (controlSystem topology).Reachable (System.Lasting topology) system)
    (rest : ∀ node, (system.engine node).operation = none) {peer theirs : Peer}
    (different : node ≠ other)
    (held : (system.engine node).control.peers.get? (topology.endpoint other) = some peer)
    (isReady : peer.state = .ready)
    (heldThere : (system.engine other).control.peers.get? (topology.endpoint node) = some theirs)
    (named : theirs.connectionId = peer.remoteConnectionId) :
    JoinedTo topology system node other peer theirs := by
  have undisturbed : ∀ (state : System Node) (action : Action Node),
      state.Lasting topology action → state.Undisturbed topology action :=
    fun _ _ obeys => obeys.undisturbed
  have calm : (controlSystem topology).Reachable (System.Undisturbed topology) system :=
    reached.mono undisturbed
  have authentic := authentic_of_reachable (fun _ _ obeys => (undisturbed _ _ obeys).fresh) reached
  have formed := (authentic.consistent node).formed held
  have settled := (quiet_of_reachable reached).settled other
  have orderly := orderly_of_reachable undisturbed reached different.symm
  have registered : ∀ metadata, metadata ∈ (system.engine other).control.memoryMetadata ↔
      .publish metadata (.ok ()) ∈ (system.engine other).outcomes := by
    intro metadata
    refine ⟨fun member => ?_, fun published => orderly.records.returned metadata published⟩
    rcases settled.published metadata member with published | ⟨_, _, _, _, running⟩
    · exact published
    · simp [rest other] at running
  refine ⟨held, ?_, isReady, ?_, fun metadata => ?_, registered⟩
  · intro key entry entryHeld same
    rw [← formed.keyed entryHeld, same, held, Option.some.injEq] at entryHeld
    exact entryHeld.symm
  · exact (ready_peers_agree calm held isReady heldThere named).2.1
  · obtain ⟨⟨count, _, _, imports, _⟩, _⟩ := imports_are_prefix
      (calm.mono fun _ _ obeys => ⟨obeys.fresh, obeys.keepsOpen⟩) held (formed.keyed held)
    refine ⟨fun imported => List.mem_of_mem_take ((imports metadata).mp imported), fun member => ?_⟩
    exact no_lost_registration calm ((registered metadata).mp member) held isReady heldThere named

/-- Convergence without disconnects. -/
theorem convergence
    (reached : (controlSystem topology).Reachable (System.Lasting topology) system) :
    ((∀ node, ∀ outcome ∈ (system.engine node).outcomes, ¬outcome.Raised) ∧
      ∀ rpc ∈ system.rpcs, ∀ error, .error error ∉ rpc.answers) ∧
    (∀ node, OnePeerEach (system.engine node)) ∧
    ((∀ node, (system.engine node).operation = none) →
      ∀ node other result, .connect (topology.endpoint other) result ∈
        (system.engine node).outcomes →
      ∃ peer theirs, JoinedTo topology system node other peer theirs ∧
        JoinedTo topology system other node theirs peer) := by
  have quiet := quiet_of_reachable reached
  refine ⟨⟨fun node => (quiet.settled node).outcomes, quiet.answers⟩,
    onePeerEach_of_reachable reached, fun rest node other result dialed => ?_⟩
  have fresh : ∀ (state : System Node) (action : Action Node),
      state.Lasting topology action → state.FreshNames topology action :=
    fun _ _ obeys => obeys.undisturbed.fresh
  obtain ⟨handle, rfl⟩ : ∃ handle, result = .ok handle := by
    cases result with
    | ok handle => exact ⟨handle, rfl⟩
    | error error => exact absurd trivial ((quiet.settled node).outcomes _ dialed)
  -- The peer whose handle was returned is still there, and ready.
  obtain ⟨⟨origin, member, sameHandle, isEndpoint⟩, returned⟩ :=
    returned_ready fresh reached node _ handle dialed
  obtain ⟨peer, held, isOrigin, _⟩ := kept_of_reachable reached member
  have isReady := returned _ peer held (isOrigin.trans sameHandle)
  rw [isEndpoint] at held
  obtain ⟨target, isOther, isTarget⟩ := madeForNodes_of_reachable fresh
    (fun _ _ obeys => obeys.undisturbed.advertised) reached node origin member
  obtain rfl : target = other := topology.endpoint_injective (isTarget.symm.trans isEndpoint)
  obtain ⟨link, isLink, connected, back, readyThere⟩ :=
    (peace_of_reachable reached node target isOther.symm).ready_both
      (peace_of_reachable reached target node isOther)
      (by simp [System.view, Engine.sideTo_idle (rest target)]) (linkTo_of_get? held)
      (by simp [Peer.link, isReady])
  obtain ⟨theirs, heldThere, rfl⟩ := get?_of_linkTo isLink
  have isReadyThere : theirs.state = .ready := by simpa [Peer.link] using readyThere
  have named : peer.remoteConnectionId = theirs.connectionId := by
    simpa [Peer.link, isReady] using connected
  have namedBack : theirs.remoteConnectionId = peer.connectionId := by
    simpa [Peer.link, isReadyThere] using back
  exact ⟨peer, theirs,
    .of_ready reached rest isOther.symm held isReady heldThere named.symm,
    .of_ready reached rest isOther heldThere isReadyThere held namedBack.symm⟩

end Lasting

theorem convergence_pair : ∃ (system : System Bool) (peer theirs : Peer),
    [7] ∈ (system.engine false).control.memoryMetadata ∧
    JoinedTo Topology.pair system false true peer theirs ∧
    JoinedTo Topology.pair system true false theirs peer := by
  have computed : ∃ system, (controlSystem Topology.pair).Reachable
      (System.Lasting Topology.pair) system ∧ (∀ node, (system.engine node).operation = none) ∧
      [7] ∈ (system.engine false).control.memoryMetadata ∧
      .connect "beta" (.ok 1) ∈ (system.engine false).outcomes :=
    LabelledSystem.exists_reachable (.initial rfl) connectAndRegister (by decide)
  obtain ⟨system, reached, rest, registered, dialed⟩ := computed
  obtain ⟨peer, theirs, joined⟩ := (convergence reached).2.2 rest false true _ dialed
  exact ⟨system, peer, theirs, registered, joined⟩

end Rdma101
