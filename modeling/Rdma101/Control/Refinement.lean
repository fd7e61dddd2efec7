/-
Module: Rdma101.Control.Refinement
Purpose: Undisturbed runs refine the protocol between two parties: what two nodes look like to
  each other changes by steps of the session, whatever the other nodes do.
Trusted boundary: none
Main exports: System.Permits, step_steps, views_of_reachable, orderly_of_reachable
-/
import Rdma101.Control.HandlerSteps

namespace Rdma101

open Wire ControlPlane Session

/-- The discipline of an action grants what the rules of the session ask of the node `node`. -/
structure System.Permits {Node : Type} (rules : Rules String Bytes) (topology : Topology Node)
    (system : System Node) (action : Action Node) (node other : Node) : Prop where
  drops : ∀ handle env peer, action = .disconnect node handle env →
    (system.engine node).control.peers.get? (topology.endpoint other) = some peer →
    peer.handle = handle → rules.drops peer.link
  accepts : ∀ call env rpc, action = .handle call env → system.rpcs[call]? = some rpc →
    topology.resolve rpc.endpoint = some node → rpc.caller = other →
    AcceptsAt rules topology system node other

variable {Node : Type} {topology : Topology Node} {before after : System Node}
  {action : Action Node} {node other actor : Node} {rules : Rules String Bytes}

/-- The acts of one node are steps of each of its sessions. -/
theorem OwnStep.steps (own : OwnStep rules topology before after node other)
    (unchanged : (after.engine other).sideTo after.rpcs (topology.endpoint node) =
      (before.engine other).sideTo before.rpcs (topology.endpoint node)) :
    Steps rules (before.view topology node other) (after.view topology node other) := by
  rw [System.view, System.view, unchanged]
  exact Own.steps own

/-- Nodes that have done nothing, as parties. -/
theorem view_start (node other : Node) :
    (System.start : System Node).view topology node other = {} := by
  simp [System.view, Engine.sideTo, System.start, ControlPlane.linkTo, ControlPlane.madeFor,
    returnedIn]

/-- The only answer to a request is the one at any index. -/
theorem System.Waiting.answersOf_eq (waiting : before.Waiting) {call index : Nat}
    {rpc : Rpc Node} {result : Except PyError Reply} (found : before.rpcs[call]? = some rpc)
    (answered : rpc.answers[index]? = some result) : answersOf before.rpcs call = [result] := by
  have once := waiting.once rpc (List.mem_of_getElem? found)
  have member := List.mem_of_getElem? answered
  simp only [answersOf, found]
  cases isAnswers : rpc.answers with
  | nil => simp [isAnswers] at member
  | cons first others =>
      cases others with
      | nil => simpa [isAnswers, eq_comm] using member
      | cons => simp [isAnswers] at once

variable [DecidableEq Node]

/-- A section of the operation of one node, in the session of any two nodes. -/
theorem sections_steps (authentic : Authentic topology before)
    (others : ∀ one, one ≠ actor → after.engine one = before.engine one)
    (sent : ∃ more, after.rpcs = before.rpcs ++ more ∧ ∀ rpc ∈ more, rpc.answers = [])
    (own : ∀ one, actor = node ∧ one = other ∨ actor = other ∧ one = node →
      OwnStep rules topology before after actor one)
    (different : node ≠ other) :
    Steps rules (before.view topology node other) (after.view topology node other) := by
  obtain ⟨more, isSent, _⟩ := sent
  have unchanged : ∀ one endpoint, one ≠ actor → (after.engine one).sideTo after.rpcs endpoint =
      (before.engine one).sideTo before.rpcs endpoint := by
    intro one endpoint elsewhere
    rw [others one elsewhere, isSent, authentic.sideTo_append]
  by_cases here : actor = node
  · subst here
    exact (own other (.inl ⟨rfl, rfl⟩)).steps (unchanged other _ (Ne.symm different))
  by_cases there : actor = other
  · subst there
    exact ((own node (.inr ⟨rfl, rfl⟩)).steps (unchanged node _ different)).swap
  · rw [System.view, System.view, unchanged node _ (Ne.symm here),
      unchanged other _ (Ne.symm there)]

/-- A step that is not the handling of a request changes one engine and sends at most. -/
theorem Transition.local (transition : Transition topology before action after)
    (sends : ∀ call env, action ≠ .handle call env) :
    ∃ more, after.rpcs = before.rpcs ++ more ∧ ∀ rpc ∈ more, rpc.answers = [] := by
  cases transition with
  | ended => exact ⟨[], by simp⟩
  | registered => exact ⟨[], by simp⟩
  | sent => exact ⟨_, rfl, by simp⟩
  | handled => exact absurd rfl (sends _ _)
  | closed => exact ⟨[], by simp⟩

/-- Every undisturbed step is a number of steps in the session of any two nodes. -/
theorem step_steps (authentic : Authentic topology before) (waiting : before.Waiting)
    (made : MadeForNodes topology before) (undisturbed : before.Undisturbed topology action)
    (permits : before.Permits rules topology action node other)
    (permitsOther : before.Permits rules topology action other node)
    (different : node ≠ other) (taken : before.step topology action = some after) :
    Steps rules (before.view topology node other) (after.view topology node other) := by
  have transition := authentic.transition undisturbed.fresh taken
  have succeeds := undisturbed.succeeds
  cases action with
  | connect actor endpoint env =>
      have sent := transition.local (by simp)
      simp only [System.step, Option.ite_none_right_eq_some, Option.some.injEq] at taken
      obtain ⟨idle, rfl⟩ := taken
      exact sections_steps authentic (fun one elsewhere => System.stepConnect_engine elsewhere _)
        sent (fun one _ => stepConnect_own authentic (waiting.opened actor) succeeds
          undisturbed.fresh idle) different
  | disconnect actor handle env =>
      have sent := transition.local (by simp)
      simp only [System.step, Option.ite_none_right_eq_some, Option.some.injEq] at taken
      obtain ⟨idle, rfl⟩ := taken
      refine sections_steps authentic
        (fun one elsewhere => System.stepDisconnect_engine elsewhere _) sent
        (fun one concerned => stepDisconnect_own authentic (waiting.opened actor) succeeds idle
          ?_) different
      intro peer held isHandle
      rcases concerned with ⟨rfl, rfl⟩ | ⟨rfl, rfl⟩
      · exact permits.drops _ _ _ rfl held isHandle
      · exact permitsOther.drops _ _ _ rfl held isHandle
  | registerLocalMemory actor env =>
      have sent := transition.local (by simp)
      simp only [System.step, Option.ite_none_right_eq_some, Option.some.injEq] at taken
      obtain ⟨idle, rfl⟩ := taken
      exact sections_steps authentic (fun one elsewhere => System.stepRegister_engine elsewhere)
        sent (fun one _ => stepRegister_own (waiting.opened actor) succeeds idle) different
  | publish actor =>
      have sent := transition.local (by simp)
      simp only [System.step] at taken
      split at taken
      · rename_i metadata registered
        rw [Option.some.injEq] at taken
        subst taken
        exact sections_steps authentic
          (fun one elsewhere => System.stepPublish_engine elsewhere _) sent
          (fun one _ => stepPublish_own authentic (waiting.opened actor) registered) different
      · simp at taken
  | handle call env =>
      have fresh := undisturbed.fresh
      have reliable := undisturbed.reliable
      simp only [System.step] at taken
      split at taken
      · simp at taken
      · rename_i rpc found
        split at taken
        · simp at taken
        · rename_i target reached
          rw [Option.some.injEq] at taken
          subst taken
          refine stepHandle_steps authentic waiting made succeeds
            (fresh rpc (by simp [found]) target (by simp [reached])) found
            (reliable rpc (by simp [found])) reached different ?_ ?_
          · exact fun isTarget => permits.accepts _ _ _ rfl found (isTarget ▸ reached)
          · exact fun isTarget => permitsOther.accepts _ _ _ rfl found (isTarget ▸ reached)
  | resume actor index env =>
      have sent := transition.local (by simp)
      simp only [System.step] at taken
      split at taken
      · simp at taken
      · rename_i operation running
        cases isCall : operation.call? with
        | none => simp [isCall] at taken
        | some call =>
            rw [isCall] at taken
            cases found : before.rpcs[call]? with
            | none => simp [found] at taken
            | some rpc =>
                simp only [Option.bind_some, found] at taken
                split at taken
                · simp at taken
                · rename_i error answered
                  rw [Option.some.injEq] at taken
                  subst taken
                  exact sections_steps authentic
                    (fun one elsewhere => System.raiseRpcError_engine elsewhere _) sent
                    (fun one _ => raiseRpcError_own running isCall
                      (waiting.answersOf_eq found answered)) different
                · rename_i reply answered
                  exact sections_steps authentic
                    (fun one elsewhere => System.stepResume_engine elsewhere taken) sent
                    (fun one _ => stepResume_own authentic waiting made succeeds running isCall
                      (waiting.answersOf_eq found answered) taken) different
  | timeout actor => exact undisturbed.reliable.elim
  | close actor => exact undisturbed.keepsOpen.elim

/-- What holds of two parties at the start, and after every act that the rules allow, holds of any
two nodes in every state of an undisturbed run that keeps to the rules. -/
theorem views_of_reachable (rules : Rules String Bytes)
    {allowed : System Node → Action Node → Prop}
    (undisturbed : ∀ system action, allowed system action → system.Undisturbed topology action)
    {holds : Side String Bytes → Side String Bytes → Prop} (initially : holds {} {})
    (preserved : ∀ {near far near' far'}, Act rules near far near' far' →
      holds near far → holds far near → holds near' far' ∧ holds far' near')
    (permits : ∀ system action, (controlSystem topology).Reachable allowed system →
      allowed system action → ∀ node other, node ≠ other →
      system.Permits rules topology action node other)
    {system : System Node} (reached : (controlSystem topology).Reachable allowed system)
    {node other : Node} (different : node ≠ other) :
    holds (system.view topology node other).near (system.view topology node other).far := by
  suffices (holds (system.view topology node other).near (system.view topology node other).far ∧
      holds (system.view topology node other).far (system.view topology node other).near) from
    this.1
  induction reached with
  | initial start =>
      rw [show _ = System.start from start, view_start]
      exact ⟨initially, initially⟩
  | step earlier obeys taken inductionHypothesis =>
      have fresh : ∀ system action, allowed system action → system.FreshNames topology action :=
        fun _ _ obeys => (undisturbed _ _ obeys).fresh
      have made := madeForNodes_of_reachable fresh
        (fun _ _ obeys => (undisturbed _ _ obeys).advertised) earlier
      exact (step_steps (authentic_of_reachable fresh earlier)
        (waiting_of_reachable undisturbed earlier) made (undisturbed _ _ obeys)
        (permits _ _ earlier obeys _ _ different) (permits _ _ earlier obeys _ _ different.symm)
        different taken).invariant preserved inductionHypothesis

/-- No rules at all. -/
def anyRules : Rules String Bytes where
  drops := fun _ => True
  accepts := fun _ _ _ => True

/-- Any two nodes of an undisturbed run are orderly. -/
theorem orderly_of_reachable {allowed : System Node → Action Node → Prop}
    (undisturbed : ∀ system action, allowed system action → system.Undisturbed topology action)
    {system : System Node} (reached : (controlSystem topology).Reachable allowed system)
    {node other : Node} (different : node ≠ other) :
    Orderly ((system.engine node).sideTo system.rpcs (topology.endpoint other))
      ((system.engine other).sideTo system.rpcs (topology.endpoint node)) :=
  views_of_reachable anyRules undisturbed Orderly.start (fun act => act.orderly)
    (fun _ _ _ _ _ _ _ => ⟨fun _ _ _ _ _ _ => trivial, fun _ _ _ _ _ _ _ _ _ => trivial⟩)
    reached different

end Rdma101
