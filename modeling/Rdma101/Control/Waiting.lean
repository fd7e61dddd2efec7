/-
Module: Rdma101.Control.Waiting
Purpose: The invariant of runs in which at most replies get lost: a request that was not handled
  yet is the one that the operation of its caller waits for, and no request is handled twice.
Trusted boundary: none
Main exports: System.Patient, System.Waiting, System.step_operation, System.step_goes_on,
  System.step_starts, patient_of_reachable, waiting_of_reachable
-/
import Rdma101.Control.Wiring

namespace Rdma101

open Wire ControlPlane

namespace System

variable {Node : Type}

/-- A request that was not handled yet is waited for, and no request is handled twice. -/
structure Patient (system : System Node) : Prop where
  waits : ∀ call rpc, system.rpcs[call]? = some rpc → rpc.answers = [] →
    ∃ operation, (system.engine rpc.caller).operation = some operation ∧
      operation.call? = some call
  once : ∀ rpc ∈ system.rpcs, rpc.answers.length ≤ 1

/-- The invariant. -/
structure Waiting (system : System Node) : Prop where
  opened : ∀ node, (system.engine node).control.closed = false
  waits : ∀ call rpc, system.rpcs[call]? = some rpc → rpc.answers = [] →
    ∃ operation, (system.engine rpc.caller).operation = some operation ∧
      operation.call? = some call
  once : ∀ rpc ∈ system.rpcs, rpc.answers.length ≤ 1
  /-- The peers to notify belong to different nodes. -/
  notified : ∀ node metadata snapshot peer rest call,
    (system.engine node).operation = some (.notifying metadata snapshot peer rest call) →
    ((peer :: rest).map Peer.endpoint).Nodup

theorem waiting_start : (start : System Node).Waiting := by
  constructor <;> simp [start]

variable [DecidableEq Node] {topology : Topology Node} {before after : System Node}
  {action : Action Node} {node other : Node} {env : Environment}

/-! ### A section of one node leaves the engines of the others alone

Only a handler changes another engine than that of its actor, and it keeps the operation there.
So who waits for what is decided by the steps of the node itself. -/

theorem notify_engine (different : other ≠ node) (control : ControlPlane) (metadata : Bytes)
    (snapshot : Snapshot) (peers : List Peer) :
    (before.notify topology node control metadata snapshot peers).engine other =
      before.engine other := by
  cases peers <;> simp [notify, setEngine_engine, different]

theorem stepConnect_engine (different : other ≠ node) (endpoint : String) :
    (before.stepConnect topology node endpoint env).engine other = before.engine other := by
  rw [stepConnect]
  split <;> simp [setEngine_engine, different]

theorem stepDisconnect_engine (different : other ≠ node) (handle : Handle) :
    (before.stepDisconnect topology node handle env).engine other = before.engine other := by
  rw [stepDisconnect]
  split <;> simp [setEngine_engine, different]

theorem stepRegister_engine (different : other ≠ node) :
    (before.stepRegister node env).engine other = before.engine other := by
  rw [stepRegister]
  split <;> simp [setEngine_engine, different]

theorem stepPublish_engine (different : other ≠ node) (metadata : Bytes) :
    (before.stepPublish topology node metadata).engine other = before.engine other := by
  rw [stepPublish]
  split
  · simp [setEngine_engine, different]
  · exact notify_engine different _ _ _ _

theorem raiseRpcError_engine (different : other ≠ node) (operation : Operation) :
    (before.raiseRpcError node operation).engine other = before.engine other := by
  simp [raiseRpcError, setEngine_engine, different]

theorem stepResume_engine (different : other ≠ node) {operation : Operation} {reply : Reply}
    (taken : before.stepResume topology node operation reply env = some after) :
    after.engine other = before.engine other := by
  unfold stepResume at taken
  split at taken
  · dsimp only at taken
    split at taken <;>
      (rw [Option.some.injEq] at taken; subst taken; simp [setEngine_engine, different])
  · dsimp only at taken
    split at taken <;>
      (rw [Option.some.injEq] at taken; subst taken; simp [setEngine_engine, different])
  · rw [Option.some.injEq] at taken
    exact taken ▸ notify_engine different _ _ _ _
  · rw [Option.some.injEq] at taken
    exact taken ▸ by simp [setEngine_engine, different]
  · simp at taken

/-- Only the control plane of a node changes while another node acts or a handler runs. -/
theorem step_elsewhere (taken : before.step topology action = some after)
    (other : action.actor? ≠ some node) :
    after.engine node = { before.engine node with control := (after.engine node).control } := by
  have apart : ∀ actor, action.actor? = some actor → node ≠ actor := by
    rintro actor isActor rfl
    exact other isActor
  cases action with
  | connect actor endpoint env =>
      simp only [step, Option.ite_none_right_eq_some, Option.some.injEq] at taken
      rw [← taken.2, stepConnect_engine (apart actor rfl)]
  | disconnect actor handle env =>
      simp only [step, Option.ite_none_right_eq_some, Option.some.injEq] at taken
      rw [← taken.2, stepDisconnect_engine (apart actor rfl)]
  | registerLocalMemory actor env =>
      simp only [step, Option.ite_none_right_eq_some, Option.some.injEq] at taken
      rw [← taken.2, stepRegister_engine (apart actor rfl)]
  | publish actor =>
      simp only [step] at taken
      split at taken
      · rw [Option.some.injEq] at taken
        rw [← taken, stepPublish_engine (apart actor rfl)]
      · simp at taken
  | handle number env =>
      simp only [step] at taken
      split at taken
      · simp at taken
      · split at taken
        · simp at taken
        · rw [Option.some.injEq] at taken
          rw [← taken, stepHandle]
          split <;> simp only [answer_engine, setEngine_engine] <;> split <;> simp_all
  | resume actor index env =>
      have different := apart actor rfl
      simp only [step] at taken
      split at taken
      · simp at taken
      · split at taken
        · simp at taken
        · rw [Option.some.injEq] at taken
          rw [← taken, raiseRpcError_engine different]
        · rw [stepResume_engine different taken]
  | timeout actor =>
      simp only [step] at taken
      split at taken
      · simp at taken
      · split at taken
        · simp at taken
        · rw [Option.some.injEq] at taken
          rw [← taken, raiseRpcError_engine (apart actor rfl)]
  | close actor =>
      simp only [step, Option.ite_none_right_eq_some, Option.some.injEq] at taken
      rw [← taken.2, setEngine_engine, if_neg (apart actor rfl)]

/-- An operation does not change while another node acts or a handler runs. -/
theorem step_operation (taken : before.step topology action = some after)
    (other : action.actor? ≠ some node) :
    (after.engine node).operation = (before.engine node).operation := by
  rw [step_elsewhere taken other]

/-- An operation goes on only once its request was handled. -/
theorem step_keeps_operation (taken : before.step topology action = some after)
    (losesReplies : before.LosesReplies action)
    {operation : Operation} {call : Nat} {rpc : Rpc Node}
    (waiting : (before.engine node).operation = some operation)
    (isCall : operation.call? = some call) (found : before.rpcs[call]? = some rpc)
    (unanswered : rpc.answers = []) : (after.engine node).operation = some operation := by
  by_cases here : action.actor? = some node
  · cases action with
    | connect | disconnect | registerLocalMemory | close =>
        obtain rfl := Option.some.inj here
        simp [step, waiting] at taken
    | publish =>
        obtain rfl := Option.some.inj here
        simp only [step, waiting] at taken
        split at taken
        · rename_i isRegistered
          rw [Option.some.injEq] at isRegistered
          simp [isRegistered, Operation.call?] at isCall
        · simp at taken
    | handle => cases here
    | resume =>
        -- There is no answer to go on with.
        obtain rfl := Option.some.inj here
        simp [step, waiting, isCall, found, unanswered] at taken
    | timeout =>
        obtain rfl := Option.some.inj here
        exact absurd unanswered (losesReplies operation waiting call isCall rpc found)
  · rw [step_operation taken here, waiting]

/-- A waiting operation goes on when its node takes a reply, and fails when its node takes an error
or gives up. -/
theorem step_goes_on (taken : before.step topology action = some after)
    (here : action.actor? = some node) {operation : Operation} {call : Nat}
    (waiting : (before.engine node).operation = some operation)
    (isCall : operation.call? = some call) :
    (after = before.raiseRpcError node operation ∧ (action = .timeout node ∨
      ∃ index env rpc error, action = .resume node index env ∧ before.rpcs[call]? = some rpc ∧
        rpc.answers[index]? = some (.error error))) ∨
    ∃ index env rpc reply, action = .resume node index env ∧ before.rpcs[call]? = some rpc ∧
      rpc.answers[index]? = some (.ok reply) ∧
      before.stepResume topology node operation reply env = some after := by
  cases action with
  | connect | disconnect | registerLocalMemory | close =>
      obtain rfl := Option.some.inj here
      simp [step, waiting] at taken
  | publish =>
      obtain rfl := Option.some.inj here
      simp only [step, waiting] at taken
      split at taken
      · rename_i isRegistered
        rw [Option.some.injEq] at isRegistered
        simp [isRegistered, Operation.call?] at isCall
      · simp at taken
  | handle => cases here
  | timeout =>
      obtain rfl := Option.some.inj here
      simp only [step, waiting, isCall] at taken
      exact .inl ⟨by simpa using taken.symm, .inl rfl⟩
  | resume actor index env =>
      obtain rfl := Option.some.inj here
      simp only [step, waiting, isCall, Option.bind_some] at taken
      split at taken
      · simp at taken
      · rename_i error answered
        obtain ⟨rpc, found, isAnswer⟩ := Option.bind_eq_some_iff.mp answered
        exact .inl ⟨(Option.some.inj taken).symm, .inr ⟨index, env, rpc, error, rfl, found,
          isAnswer⟩⟩
      · rename_i reply answered
        obtain ⟨rpc, found, isAnswer⟩ := Option.bind_eq_some_iff.mp answered
        exact .inr ⟨index, env, rpc, reply, rfl, found, isAnswer, taken⟩

/-- The action that starts an operation. -/
def Starts (node : Node) (action : Action Node) : Operation → Prop
  | .offering _ _ => ∃ endpoint env, action = .connect node endpoint env
  | .closing _ _ => ∃ handle env, action = .disconnect node handle env
  | .registered _ => ∃ env, action = .registerLocalMemory node env
  | _ => False

/-- An idle node starts an operation by the action for it. -/
theorem step_starts (taken : before.step topology action = some after)
    (idle : (before.engine node).operation = none) {operation : Operation}
    (waiting : (after.engine node).operation = some operation) :
    Starts node action operation := by
  have here : action.actor? = some node := by
    by_contra other
    rw [step_operation taken other, idle] at waiting
    simp at waiting
  cases action with
  | connect actor endpoint env =>
      obtain rfl := Option.some.inj here
      simp only [step, Option.ite_none_right_eq_some, Option.some.injEq] at taken
      rw [← taken.2, stepConnect] at waiting
      split at waiting
      · simp [Engine.finish] at waiting
      · simp [Engine.finish] at waiting
      · obtain rfl : _ = operation := by simpa [Engine.proceed] using waiting
        exact ⟨endpoint, env, rfl⟩
  | disconnect actor handle env =>
      obtain rfl := Option.some.inj here
      simp only [step, Option.ite_none_right_eq_some, Option.some.injEq] at taken
      rw [← taken.2, stepDisconnect] at waiting
      split at waiting
      · simp [Engine.finish] at waiting
      · obtain rfl : _ = operation := by simpa [Engine.proceed] using waiting
        exact ⟨handle, env, rfl⟩
  | registerLocalMemory actor env =>
      obtain rfl := Option.some.inj here
      simp only [step, Option.ite_none_right_eq_some, Option.some.injEq] at taken
      rw [← taken.2, stepRegister] at waiting
      split at waiting
      · simp [Engine.finish] at waiting
      · obtain rfl : _ = operation := by simpa [Engine.proceed] using waiting
        exact ⟨env, rfl⟩
  | publish | resume | timeout =>
      obtain rfl := Option.some.inj here
      simp [step, idle] at taken
  | handle => cases here
  | close =>
      obtain rfl := Option.some.inj here
      simp only [step, Option.ite_none_right_eq_some, Option.some.injEq] at taken
      rw [← taken.2, setEngine_engine_self] at waiting
      simp [idle] at waiting

end System

namespace Sends

theorem call_eq {advertised : String} {control : ControlPlane} {call : Nat}
    {previous : Option Operation} {operation : Operation} {endpoint : String} {request : Request}
    (sends : Sends advertised control call previous operation endpoint request) :
    operation.call? = some call := by
  cases sends <;> rfl

end Sends

section Stepping

variable {Node : Type} [DecidableEq Node] {topology : Topology Node}
  {before after : System Node} {action : Action Node}

/-- An engine stays open unless it is closed. -/
theorem Transition.opened (transition : Transition topology before action after)
    (keepsOpen : action.KeepsOpen) (node : Node) :
    (after.engine node).control.closed = (before.engine node).control.closed := by
  obtain ⟨actor, others, ⟨grant, _, _, effects⟩ | ⟨rfl, _⟩⟩ := transition.effects
  · by_cases here : node = actor
    · exact here ▸ Effects.closed effects
    · rw [others node here]
  · exact keepsOpen.elim

/-- An RPC that waits after a transition waited before, or is sent now. -/
theorem Transition.unanswered (transition : Transition topology before action after)
    {call : Nat} {rpc : Rpc Node} (found : after.rpcs[call]? = some rpc)
    (unanswered : rpc.answers = []) :
    before.rpcs[call]? = some rpc ∨ ∃ operation,
      (after.engine rpc.caller).operation = some operation ∧ operation.call? = some call := by
  cases transition with
  | ended => exact .inl found
  | registered => exact .inl found
  | closed => exact .inl found
  | @sent _ node grant control operation endpoint request entitled effects sends fresh =>
      rw [System.send_rpcs, System.setEngine_rpcs, List.getElem?_append] at found
      split at found
      · exact .inl found
      · obtain ⟨isNew, rfl⟩ : call - before.rpcs.length = 0 ∧ _ := by
          simpa [List.getElem?_singleton] using found
        refine .inr ⟨operation, by simp [Engine.proceed], ?_⟩
        rw [sends.call_eq, Option.some.injEq]
        omega
  | @handled number env old target control result isOld =>
      rw [System.answer_getElem?, System.setEngine_rpcs] at found
      split at found
      · rename_i same
        obtain ⟨_, _, rfl⟩ := Option.map_eq_some_iff.mp found
        simp at unanswered
      · exact .inl found

theorem Transition.patient (transition : Transition topology before action after)
    (taken : before.step topology action = some after)
    (losesReplies : before.LosesReplies action) (patient : before.Patient) : after.Patient where
  waits := by
    intro call rpc found unanswered
    rcases transition.unanswered found unanswered with earlier | now
    · obtain ⟨operation, isWaiting, isCall⟩ := patient.waits call rpc earlier unanswered
      exact ⟨operation, System.step_keeps_operation taken losesReplies isWaiting isCall earlier
        unanswered, isCall⟩
    · exact now
  once := by
    intro rpc member
    cases transition with
    | ended => exact patient.once rpc member
    | registered => exact patient.once rpc member
    | closed => exact patient.once rpc member
    | sent =>
        rcases List.mem_append.mp member with old | new
        · exact patient.once rpc old
        · simp [List.mem_singleton.mp new]
    | @handled number env old target control result found =>
        obtain ⟨index, isRpc⟩ := List.mem_iff_getElem?.mp member
        rw [System.answer_getElem?, System.setEngine_rpcs] at isRpc
        split at isRpc
        · rename_i same
          -- The request was not handled before.
          have unanswered := losesReplies old (by simp [found])
          rw [same, found, Option.map_some, Option.some.injEq] at isRpc
          simp [← isRpc, unanswered]
        · exact patient.once rpc (List.mem_of_getElem? isRpc)

theorem Transition.waiting (transition : Transition topology before action after)
    (taken : before.step topology action = some after)
    (losesReplies : before.LosesReplies action) (keepsOpen : action.KeepsOpen)
    (waiting : before.Waiting) : after.Waiting where
  opened := by
    intro node
    rw [transition.opened keepsOpen, waiting.opened]
  waits := (transition.patient taken losesReplies ⟨waiting.waits, waiting.once⟩).waits
  once := (transition.patient taken losesReplies ⟨waiting.waits, waiting.once⟩).once
  notified := by
    intro node metadata snapshot peer rest call isOperation
    rcases transition.operation_cases isOperation with
      earlier | ⟨_, impossible⟩ | ⟨endpoint, request, sends, _⟩
    · exact waiting.notified node _ _ _ _ _ earlier
    · simp at impossible
    · generalize isBefore : (before.engine node).operation = previous at sends
      cases sends with
      | announce held distinct => exact distinct
      | announceNext => exact (List.nodup_cons.mp (waiting.notified node _ _ _ _ _ isBefore)).2

/-- Every state of a run that loses replies at most is patient. -/
theorem patient_of_reachable {allowed : System Node → Action Node → Prop}
    (fresh : ∀ system action, allowed system action → system.FreshNames topology action)
    (losesReplies : ∀ system action, allowed system action → system.LosesReplies action)
    {system : System Node} (reached : (controlSystem topology).Reachable allowed system) :
    system.Patient := by
  refine reached.invariant_with (fun _ => authentic_of_reachable fresh) (fun state isStart => ?_) ?_
  · rw [show state = System.start from isStart]
    constructor <;> simp [System.start]
  · intro before action after authentic _ patient obeys taken
    exact (authentic.transition (fresh before action obeys) taken).patient taken
      (losesReplies before action obeys) patient

/-- Every state of an undisturbed run is waiting. -/
theorem waiting_of_reachable {allowed : System Node → Action Node → Prop}
    (undisturbed : ∀ system action, allowed system action → system.Undisturbed topology action)
    {system : System Node} (reached : (controlSystem topology).Reachable allowed system) :
    system.Waiting := by
  refine reached.invariant_with
    (fun _ => authentic_of_reachable fun _ _ obeys => (undisturbed _ _ obeys).fresh)
    (fun state isStart => ?_) ?_
  · exact (show state = System.start from isStart) ▸ System.waiting_start
  · intro before action after authentic _ waiting obeys taken
    have obeyed := undisturbed before action obeys
    exact (authentic.transition obeyed.fresh taken).waiting taken obeyed.reliable.losesReplies
      obeyed.keepsOpen waiting

end Stepping

end Rdma101
