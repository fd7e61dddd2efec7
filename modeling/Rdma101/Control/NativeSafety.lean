/-
Module: Rdma101.Control.NativeSafety
Purpose: In every run with fresh names and successful native calls, however unreliable the
  network, an open control plane obeys the C API and leaks no QP, and no assertion of the
  native engine fires at any node.
Trusted boundary: none
Main exports: NativeDiscipline, native_calls_disciplined
-/
import Rdma101.Control.Authenticity

namespace Rdma101

open Wire ControlPlane

/-- The call returned without an error. -/
def NativeCall.Succeeded : NativeCall → Prop
  | .createPeer _ _ => True
  | .connectPeer _ _ ok => ok = true
  | .importRemoteMemory _ _ ok => ok = true
  | .destroyPeer _ ok => ok = true

/-- An operation that raised did not raise an assertion of the native engine. -/
def Outcome.Legitimate : Outcome → Prop
  | .connect _ (.error error) => error.Legitimate
  | .register (.error error) => error.Legitimate
  | .publish _ (.error error) => error.Legitimate
  | .disconnect _ (.error error) => error.Legitimate
  | _ => True

/-- What the discipline comes to in one open control plane. -/
structure NativeDiscipline (control : ControlPlane) : Prop where
  /-- Each call was legal when it was made. -/
  disciplined : Trace.Disciplined control.native.calls
  succeeded : ∀ call ∈ control.native.calls, call.Succeeded
  destroyedOnce : ∀ handle, control.native.calls.count (.destroyPeer handle true) ≤ 1
  /-- The live handles are those of the table. -/
  live : ∀ handle, control.native.peers.get? handle ≠ none ↔
    ∃ endpoint peer, control.peers.get? endpoint = some peer ∧ peer.handle = handle
  /-- The trace and the native engine agree on what is live. -/
  traced : ∀ handle, control.native.peers.get? handle ≠ none ↔
    Trace.Live control.native.calls handle
  distinctHandles : ∀ first second peer other, control.peers.get? first = some peer →
    control.peers.get? second = some other → peer.handle = other.handle → peer = other
  onePerEndpoint : ∀ first second peer other, control.peers.get? first = some peer →
    control.peers.get? second = some other → peer.endpoint = other.endpoint → peer = other

/-! ### Calls that succeed

When no native call fails, every call in the trace has succeeded, and the discipline of the C
API can be read off the trace. -/

/-- The imports of a whole snapshot. -/
theorem NativeEngine.importAll_succeeded {native : NativeEngine} {handle : Handle}
    {memories : List Bytes} (succeeded : ∀ call ∈ native.calls, call.Succeeded) :
    ∀ call ∈ (native.importAll handle memories).calls, call.Succeeded := by
  rw [NativeEngine.importAll_calls]
  intro call member
  rcases List.mem_append.mp member with old | new
  · exact succeeded call old
  · obtain ⟨metadata, _, rfl⟩ := List.mem_map.mp new
    rfl

/-- An effect adds only calls that succeeded, when the environment fails none. -/
theorem Effect.succeeded {env : Environment} {grant : Grant} {before after : ControlPlane}
    (effect : Effect env grant before after) (succeeds : env.Succeeds)
    (succeeded : ∀ call ∈ before.native.calls, call.Succeeded) :
    ∀ call ∈ after.native.calls, call.Succeeded := by
  have snoc : ∀ call : NativeCall, call.Succeeded →
      ∀ other ∈ before.native.calls ++ [call], other.Succeeded := by
    intro call succeededNow other member
    rcases List.mem_append.mp member with old | new
    · exact succeeded other old
    · rw [List.mem_singleton] at new
      exact new ▸ succeededNow
  cases effect with
  | addPeer => exact snoc _ trivial
  | joinPeer => exact snoc _ rfl
  | joinFailed _ _ answer =>
      exact absurd succeeds.connectPeer (by simp [answer, Except.isOk, Except.toBool])
  | deliver => exact succeeded
  | importAll => exact NativeEngine.importAll_succeeded succeeded
  | importPart _ _ _ _ failed => exact absurd succeeds.importFailure failed
  | markReady => exact succeeded
  | dropPeer => exact snoc _ rfl
  | dropFailed _ answer =>
      exact absurd succeeds.destroyPeer (by simp [answer, Except.isOk, Except.toBool])
  | append => exact succeeded
  | register => exact succeeded

theorem Effects.succeeded {env : Environment} {grant : Grant} {before after : ControlPlane}
    (effects : Effects env grant before after) (succeeds : env.Succeeds)
    (succeeded : ∀ call ∈ before.native.calls, call.Succeeded) :
    ∀ call ∈ after.native.calls, call.Succeeded := by
  induction effects with
  | refl => exact succeeded
  | tail _ effect inductionHypothesis => exact effect.succeeded succeeds inductionHypothesis

variable {Node : Type} [DecidableEq Node] {topology : Topology Node}
  {before after : System Node} {action : Action Node}

/-- So does a transition, at every node. -/
theorem Transition.succeeded (transition : Transition topology before action after)
    (succeeds : action.NativeSucceeds)
    (succeeded : ∀ node, ∀ call ∈ (before.engine node).control.native.calls, call.Succeeded)
    (other : Node) : ∀ call ∈ (after.engine other).control.native.calls, call.Succeeded := by
  obtain ⟨node, others, change⟩ := transition.effects
  by_cases here : other = node
  · subst here
    rcases change with ⟨grant, _, _, effects⟩ | ⟨_, closed⟩
    · exact Effects.succeeded effects succeeds (succeeded other)
    · rw [closed]
      cases isClosed : (before.engine other).control.closed <;>
        simpa [ControlPlane.close, isClosed, NativeEngine.close] using succeeded other
  · rw [others other here]
    exact succeeded other

/-! ### Assertions

The assertions of the double are kept in the model as exceptions of their own.  No section can
raise them, whatever the network delivers. -/

/-- No handler and no operation has raised an assertion of the native engine. -/
structure Unasserted (system : System Node) : Prop where
  answers : ∀ rpc ∈ system.rpcs, ∀ error, .error error ∈ rpc.answers → error.Legitimate
  outcomes : ∀ node, ∀ outcome ∈ (system.engine node).outcomes, outcome.Legitimate

theorem Outcome.Sound.legitimate {control : ControlPlane} {outcome : Outcome}
    (sound : outcome.Sound control) : outcome.Legitimate := by
  cases outcome with
  | connect _ result => cases result <;> trivial
  | register result => cases result <;> trivial
  | publish _ result => cases result <;> trivial
  | disconnect _ result => cases result <;> trivial

/-- What a section raises is never an assertion, so neither answers nor outcomes contain one. -/
theorem Transition.unasserted (transition : Transition topology before action after)
    (unasserted : Unasserted before) : Unasserted after := by
  cases transition with
  | @ended _ node grant control outcome entitled effects sound fresh =>
      refine ⟨unasserted.answers, fun other ended member => ?_⟩
      rw [System.setEngine_engine] at member
      split at member
      · rcases List.mem_append.mp member with old | new
        · exact unasserted.outcomes node ended old
        · rw [List.mem_singleton] at new
          exact new ▸ sound.legitimate
      · exact unasserted.outcomes other ended member
  | @registered node env control metadata effects =>
      refine ⟨unasserted.answers, fun other ended member => ?_⟩
      rw [System.setEngine_engine] at member
      split at member
      · exact unasserted.outcomes node ended member
      · exact unasserted.outcomes other ended member
  | @sent _ node grant control operation endpoint request entitled effects sends fresh =>
      refine ⟨fun rpc member error raised => ?_, fun other ended member => ?_⟩
      · rcases List.mem_append.mp member with old | new
        · exact unasserted.answers rpc old error raised
        · rw [List.mem_singleton] at new
          simp [new] at raised
      · rw [System.send_engine, System.setEngine_engine] at member
        split at member
        · exact unasserted.outcomes node ended member
        · exact unasserted.outcomes other ended member
  | @handled call env rpc target control result found reached effects replied legitimate fresh =>
      refine ⟨fun other member error raised => ?_, fun other ended member => ?_⟩
      · obtain ⟨index, isRpc⟩ := List.mem_iff_getElem?.mp member
        rw [System.answer_getElem?, System.setEngine_rpcs] at isRpc
        split at isRpc
        · obtain ⟨old, isOld, rfl⟩ := Option.map_eq_some_iff.mp isRpc
          rcases List.mem_append.mp raised with earlier | now
          · exact unasserted.answers old (List.mem_of_getElem? isOld) error earlier
          · exact legitimate error (List.mem_singleton.mp now).symm
        · exact unasserted.answers other (List.mem_of_getElem? isRpc) error raised
      · rw [System.answer_engine, System.setEngine_engine] at member
        split at member
        · exact unasserted.outcomes target ended member
        · exact unasserted.outcomes other ended member
  | @closed node =>
      refine ⟨unasserted.answers, fun other ended member => ?_⟩
      rw [System.setEngine_engine] at member
      split at member
      · exact unasserted.outcomes node ended member
      · exact unasserted.outcomes other ended member

/-! ### The result -/

/-- The invariant of a control plane, for a trace without failures. -/
theorem ControlPlane.WellFormed.nativeDiscipline {control : ControlPlane}
    (formed : control.WellFormed)
    (succeeded : ∀ call ∈ control.native.calls, call.Succeeded) : NativeDiscipline control where
  disciplined := formed.disciplined
  succeeded := succeeded
  destroyedOnce := formed.disciplined.destroyed_at_most_once
  live := by
    intro handle
    constructor
    · intro live
      obtain ⟨metadata, isLive⟩ := Option.ne_none_iff_exists'.mp live
      exact formed.tabled isLive
    · rintro ⟨endpoint, peer, held, rfl⟩
      simp [formed.backed held]
  traced := formed.traceLive
  distinctHandles := by
    intro first second peer other firstHeld secondHeld same
    obtain rfl := formed.handle_injective firstHeld secondHeld same
    simpa [firstHeld] using secondHeld
  onePerEndpoint := by
    intro first second peer other firstHeld secondHeld same
    rw [formed.keyed firstHeld, formed.keyed secondHeld] at same
    subst same
    simpa [firstHeld] using secondHeld

/-- Native call discipline: connects, imports and destructions only ever meet handles in the
right state, the live native peers are those of the table, and no assertion fires. -/
theorem native_calls_disciplined {system : System Node}
    (reached : (controlSystem topology).Reachable
      (fun system action => system.FreshNames topology action ∧ action.NativeSucceeds) system) :
    (∀ node, (system.engine node).control.closed = false →
      NativeDiscipline (system.engine node).control) ∧ Unasserted system := by
  have authentic : ∀ state, (controlSystem topology).Reachable
      (fun system action => system.FreshNames topology action ∧ action.NativeSucceeds) state →
      Authentic topology state :=
    fun state => authentic_of_reachable fun _ _ obeys => obeys.1
  let safe (state : System Node) : Prop :=
    (∀ node, ∀ call ∈ (state.engine node).control.native.calls, call.Succeeded) ∧
      Unasserted state
  have isSafe : safe system := by
    refine reached.invariant_with authentic (fun state isStart => ?_) ?_
    · rw [show state = System.start from isStart]
      exact ⟨by simp [System.start], ⟨by simp [System.start], by simp [System.start]⟩⟩
    · intro before action after known _ held obeys taken
      have transition := known.transition obeys.1 taken
      exact ⟨transition.succeeded obeys.2 held.1, transition.unasserted held.2⟩
  refine ⟨fun node isOpen => ?_, isSafe.2⟩
  exact ((authentic system reached).consistent node).opened isOpen |>.nativeDiscipline
    (isSafe.1 node)

theorem native_calls_disciplined_pair : ∃ system : System Bool,
    (system.engine true).control.peers.get? "alpha" ≠ none ∧
    NativeDiscipline (system.engine true).control ∧ Unasserted system := by
  have computed : ∃ system, (controlSystem Topology.pair).Reachable (fun system action =>
      system.FreshNames Topology.pair action ∧ action.NativeSucceeds) system ∧
      (system.engine true).control.closed = false ∧
      (system.engine true).control.peers.get? "alpha" ≠ none :=
    LabelledSystem.exists_reachable (.initial rfl) connectAndRegister (by decide)
  obtain ⟨system, reached, isOpen, held⟩ := computed
  exact ⟨system, held, (native_calls_disciplined reached).1 true isOpen,
    (native_calls_disciplined reached).2⟩

end Rdma101
