/-
Module: Rdma101.Control.Transition
Purpose: What a step of the system can do, said once.  An action changes one engine by the
  effects its section is entitled to, and sends one request, records one answer, or neither.
Trusted boundary: none
Main exports: Entitled, Sends, Transition, Transition.effects, Transition.rpcs,
  System.step_transition
-/
import Rdma101.Control.Evolution
import Rdma101.Control.Discipline

namespace Rdma101

open Wire ControlPlane

/-- What an action may do to the control plane of a node. -/
inductive Entitled {Node : Type} (topology : Topology Node) (system : System Node) :
    Action Node → Node → Grant → Prop where
  | nothing {action : Action Node} {node : Node} : Entitled topology system action node {}
  | dial {node : Node} {endpoint : String} {env : Environment} :
      Entitled topology system (.connect node endpoint env) node
        { creates := fun key => key = endpoint ∧ endpoint ≠ "" ∧
            endpoint ≠ topology.endpoint node }
  | join {node : Node} {answer call : Nat} {env : Environment} {peer : Peer} {rpc : Rpc Node}
      {remote : Offer} (waiting : (system.engine node).operation = some (.offering peer call))
      (sent : system.rpcs[call]? = some rpc) (answered : .ok (.offer remote) ∈ rpc.answers) :
      Entitled topology system (.resume node answer env) node
        { offers := fun held offer => held.handle = peer.handle ∧
            held.endpoint = peer.endpoint ∧ offer = remote }
  | finish {node : Node} {answer call : Nat} {env : Environment} {peer : Peer}
      {rpc : Rpc Node} {snapshot : Snapshot}
      (waiting : (system.engine node).operation = some (.updating peer call))
      (sent : system.rpcs[call]? = some rpc)
      (answered : .ok (.snapshot snapshot) ∈ rpc.answers) :
      Entitled topology system (.resume node answer env) node
        { imports := fun held given => held.handle = peer.handle ∧
            held.endpoint = peer.endpoint ∧ given = snapshot
          readies := fun held => held.handle = peer.handle ∧ held.endpoint = peer.endpoint }
  | append {node : Node} {metadata : Bytes} :
      Entitled topology system (.publish node) node { appends := fun given => given = metadata }
  | disconnect {node : Node} {handle : Handle} {env : Environment} :
      Entitled topology system (.disconnect node handle env) node
        { destroys := fun held => held.handle = handle }
  | register {node : Node} {env : Environment} :
      Entitled topology system (.registerLocalMemory node env) node { registers := True }
  | handle {node : Node} {call : Nat} {env : Environment} {rpc : Rpc Node}
      (sent : system.rpcs[call]? = some rpc)
      (reached : topology.resolve rpc.endpoint = some node) :
      Entitled topology system (.handle call env) node
        (Request.grant (topology.endpoint node) rpc.request)

/-- What an outcome says about the control plane it was reached in. -/
def Outcome.Sound (control : ControlPlane) : Outcome → Prop
  | .connect endpoint (.ok handle) => ∃ peer, control.peers.get? endpoint = some peer ∧
      peer.handle = handle ∧ peer.state = .ready
  | .connect _ (.error error) => error.Legitimate
  | .register (.error error) => error.Legitimate
  | .publish _ (.error error) => error.Legitimate
  | .disconnect _ (.error error) => error.Legitimate
  | _ => True

/-- The request that an operation sends before it waits, and what holds when it is sent.
`before` is the operation that went on. -/
inductive Sends (advertised : String) (control : ControlPlane) (call : Nat) :
    Option Operation → Operation → String → Request → Prop where
  | offer {peer : Peer} (held : control.peers.get? peer.endpoint = some peer) :
      Sends advertised control call none (.offering peer call) peer.endpoint
        (.connect (offer advertised peer))
  | update {peer current : Peer} {previous : Nat}
      (held : control.peers.get? peer.endpoint = some current)
      (sameHandle : current.handle = peer.handle) (joined : current.state ≠ .created) :
      Sends advertised control call (some (.offering peer previous)) (.updating peer call)
        peer.endpoint
        (.ready { connection := connection advertised peer, snapshot := control.snapshot })
  | announce {metadata : Bytes} {peer : Peer} {rest : List Peer}
      (held : ∀ other ∈ peer :: rest, control.peers.get? other.endpoint = some other)
      (distinct : ((peer :: rest).map Peer.endpoint).Nodup) :
      Sends advertised control call (some (.registered metadata))
        (.notifying metadata control.snapshot peer rest call) peer.endpoint
        (.changed { connection := connection advertised peer, snapshot := control.snapshot })
  | announceNext {metadata : Bytes} {snapshot : Snapshot} {past peer : Peer} {rest : List Peer}
      {previous : Nat} :
      Sends advertised control call
        (some (.notifying metadata snapshot past (peer :: rest) previous))
        (.notifying metadata snapshot peer rest call) peer.endpoint
        (.changed { connection := connection advertised peer, snapshot := snapshot })
  | close {peer : Peer} {earlier : ControlPlane}
      (held : earlier.peers.get? peer.endpoint = some peer)
      (dropped : control = earlier.dropPeer peer) (consistent : earlier.Consistent) :
      Sends advertised control call none (.closing peer call) peer.endpoint
        (.close (connection advertised peer))

variable {Node : Type}

section Stepping

variable [DecidableEq Node]

/-- One step, by the trace it leaves: an operation ends, waits for nothing, sends a request, a
handler answers, or an engine closes. -/
inductive Transition (topology : Topology Node) (before : System Node) :
    Action Node → System Node → Prop where
  | ended {action : Action Node} {node : Node} {grant : Grant}
      {control : ControlPlane} {outcome : Outcome}
      (entitled : Entitled topology before action node grant)
      (effects : Effects action.environment grant (before.engine node).control control)
      (sound : outcome.Sound control)
      (fresh : ∀ key, grant.creates key → before.FreshFor node action.environment) :
      Transition topology before action
        (before.setEngine node ((before.engine node).finish control outcome))
  | registered {node : Node} {env : Environment} {control : ControlPlane} {metadata : Bytes}
      (effects : Effects env { registers := True } (before.engine node).control control) :
      Transition topology before (.registerLocalMemory node env)
        (before.setEngine node ((before.engine node).proceed control (.registered metadata)))
  | sent {action : Action Node} {node : Node} {grant : Grant}
      {control : ControlPlane} {operation : Operation} {endpoint : String} {request : Request}
      (entitled : Entitled topology before action node grant)
      (effects : Effects action.environment grant (before.engine node).control control)
      (sends : Sends (topology.endpoint node) control before.rpcs.length
        (before.engine node).operation operation endpoint request)
      (fresh : ∀ key, grant.creates key → before.FreshFor node action.environment) :
      Transition topology before action
        ((before.setEngine node ((before.engine node).proceed control operation)).send node
          endpoint request)
  | handled {call : Nat} {env : Environment} {rpc : Rpc Node} {target : Node}
      {control : ControlPlane} {result : Except PyError Reply}
      (found : before.rpcs[call]? = some rpc)
      (reached : topology.resolve rpc.endpoint = some target)
      (effects : Effects env (Request.grant (topology.endpoint target) rpc.request)
        (before.engine target).control control)
      (replied : ∀ reply, result = .ok reply →
        Request.Replies (topology.endpoint target) rpc.request reply control)
      (legitimate : ∀ error, result = .error error → error.Legitimate)
      (fresh : before.FreshFor target env) :
      Transition topology before (.handle call env)
        ((before.setEngine target { before.engine target with control := control }).answer call
          result)
  | closed {node : Node} :
      Transition topology before (.close node)
        (before.setEngine node
          { before.engine node with control := (before.engine node).control.close })

variable {topology : Topology Node} {before after : System Node} {action : Action Node}

/-- A transition changes the control plane of one node: by effects that the node is entitled
to, or by closing it. -/
theorem Transition.effects (transition : Transition topology before action after) :
    ∃ node, (∀ other, other ≠ node → after.engine other = before.engine other) ∧
      ((∃ grant, Entitled topology before action node grant ∧
          (∀ key, grant.creates key → before.FreshFor node action.environment) ∧
          Effects action.environment grant (before.engine node).control
            (after.engine node).control) ∨
        (action = .close node ∧
          (after.engine node).control = (before.engine node).control.close)) := by
  cases transition with
  | @ended _ node grant control outcome entitled effects sound fresh =>
      refine ⟨node, fun other different => by simp [System.setEngine_engine, different],
        .inl ⟨grant, entitled, fresh, ?_⟩⟩
      simpa [Engine.finish] using effects
  | @registered node env control metadata effects =>
      refine ⟨node, fun other different => by simp [System.setEngine_engine, different],
        .inl ⟨_, .register, fun _ impossible => impossible.elim, ?_⟩⟩
      simpa [Engine.proceed, Action.environment] using effects
  | @sent _ node grant control operation endpoint request entitled effects sends fresh =>
      refine ⟨node, fun other different => by simp [System.setEngine_engine, different],
        .inl ⟨grant, entitled, fresh, ?_⟩⟩
      simpa [Engine.proceed] using effects
  | @handled call env rpc target control result found reached effects replied legitimate fresh =>
      refine ⟨target, fun other different => by simp [System.setEngine_engine, different],
        .inl ⟨_, .handle found reached, fun _ _ => fresh, ?_⟩⟩
      simpa [Action.environment] using effects
  | @closed node =>
      exact ⟨node, fun other different => by simp [System.setEngine_engine, different],
        .inr ⟨rfl, by simp⟩⟩

/-- A transition forgets no RPC. -/
theorem Transition.rpcs (transition : Transition topology before action after) {call : Nat}
    {rpc : Rpc Node} (found : before.rpcs[call]? = some rpc) :
    ∃ later : Rpc Node, after.rpcs[call]? = some later ∧ later.caller = rpc.caller ∧
      later.endpoint = rpc.endpoint ∧ later.request = rpc.request := by
  cases transition with
  | ended => exact ⟨rpc, found, rfl, rfl, rfl⟩
  | registered => exact ⟨rpc, found, rfl, rfl, rfl⟩
  | sent =>
      refine ⟨rpc, ?_, rfl, rfl, rfl⟩
      simpa [List.getElem?_append_left (List.getElem?_eq_some_iff.mp found).1] using found
  | @handled number env _ target control result =>
      by_cases same : call = number
      · exact ⟨{ rpc with answers := rpc.answers ++ [result] },
          by simp [System.answer_getElem?, ← same, found], rfl, rfl, rfl⟩
      · exact ⟨rpc, by simpa [System.answer_getElem?, same] using found, rfl, rfl, rfl⟩
  | closed => exact ⟨rpc, found, rfl, rfl, rfl⟩

end Stepping

namespace System

variable {topology : Topology Node} {before : System Node} {node : Node} {env : Environment}

theorem FreshFor.control (fresh : before.FreshFor node env) :
    env.FreshFor (before.engine node).control :=
  ⟨fresh.nonempty, fun made answer => fresh.handle made (by simp [answer, Except.toOption])⟩

variable [DecidableEq Node]

/-- A dial ends at once, or sends its offer. -/
theorem stepConnect_transition {endpoint : String}
    (consistent : (before.engine node).control.Consistent) (fresh : before.FreshFor node env)
    (idle : (before.engine node).operation = none) :
    Transition topology before (.connect node endpoint env)
      (before.stepConnect topology node endpoint env) := by
  have performed := connectOffer_performs (topology.endpoint node) env endpoint consistent
    fresh.control
  rw [stepConnect]
  cases run : (connectOffer (topology.endpoint node) env endpoint).run
      (before.engine node).control with
  | error error control =>
      obtain ⟨effects, legitimate⟩ := performed.error run
      exact .ended (.dial) effects legitimate fun _ _ => fresh
  | ok result control =>
      obtain ⟨effects, peer, held, sameEndpoint, ⟨rfl, isReady⟩ | rfl⟩ := performed.ok run
      · exact .ended (.dial) effects ⟨peer, held, rfl, isReady⟩ fun _ _ => fresh
      · subst sameEndpoint
        exact .sent .dial effects (idle ▸ .offer held) fun _ _ => fresh

/-- A disconnect destroys its peer and sends its Close, or raises. -/
theorem stepDisconnect_transition {handle : Handle}
    (consistent : (before.engine node).control.Consistent)
    (idle : (before.engine node).operation = none) :
    Transition topology before (.disconnect node handle env)
      (before.stepDisconnect topology node handle env) := by
  have performed := disconnectDestroy_performs env handle consistent
  rw [stepDisconnect]
  cases run : (disconnectDestroy env handle).run (before.engine node).control with
  | error error control =>
      obtain ⟨effects, legitimate⟩ := performed.error run
      exact .ended .disconnect effects legitimate fun _ impossible => impossible.elim
  | ok peer control =>
      obtain ⟨effects, _, held, dropped⟩ := performed.ok run
      exact .sent .disconnect effects (idle ▸ .close held dropped consistent)
        fun _ impossible => impossible.elim

/-- A native registration, whose publish comes next. -/
theorem stepRegister_transition :
    Transition topology before (.registerLocalMemory node env)
      (before.stepRegister node env) := by
  have performed := registerLocalMemory_performs env (before.engine node).control
  rw [stepRegister]
  cases run : (registerLocalMemory env).run (before.engine node).control with
  | error error control =>
      obtain ⟨effects, legitimate⟩ := performed.error run
      exact .ended .register effects legitimate fun _ impossible => impossible.elim
  | ok registration control => exact .registered (performed.ok run).1

/-- A publish without ready peers ends at once; otherwise it sends its first update. -/
theorem stepPublish_transition {metadata : Bytes}
    (consistent : (before.engine node).control.Consistent)
    (waiting : (before.engine node).operation = some (.registered metadata)) :
    Transition topology before (.publish node)
      (before.stepPublish topology node metadata) := by
  have performed := publishAppend_performs .idle metadata consistent
  rw [stepPublish]
  cases run : (publishAppend metadata).run (before.engine node).control with
  | error error control =>
      obtain ⟨effects, legitimate⟩ := performed.error run
      exact .ended .append effects legitimate fun _ impossible => impossible.elim
  | ok result control =>
      obtain ⟨snapshot, peers⟩ := result
      obtain ⟨effects, rfl, distinct, ready⟩ := performed.ok run
      cases peers with
      | nil => exact .ended .append effects trivial fun _ impossible => impossible.elim
      | cons peer rest =>
          exact .sent .append effects
            (waiting ▸ .announce (fun other member => (ready other member).1) distinct)
            fun _ impossible => impossible.elim

/-- A handler runs at the target and answers. -/
theorem stepHandle_transition {call : Nat} {rpc : Rpc Node} {target : Node}
    (found : before.rpcs[call]? = some rpc)
    (reached : topology.resolve rpc.endpoint = some target)
    (consistent : (before.engine target).control.Consistent)
    (fresh : before.FreshFor target env) :
    Transition topology before (.handle call env)
      (before.stepHandle topology target call rpc.request env) := by
  have performed := serve_performs (topology.endpoint target) env rpc.request consistent
    fun _ _ => fresh.control
  rw [stepHandle]
  cases run : (ControlServicer.serve (topology.endpoint target) env rpc.request).run
      (before.engine target).control with
  | error error control =>
      obtain ⟨effects, legitimate⟩ := performed.error run
      exact .handled found reached effects (by simp) (by simpa using legitimate) fresh
  | ok reply control =>
      obtain ⟨effects, replied⟩ := performed.ok run
      exact .handled found reached effects (by simpa using replied) (by simp) fresh

theorem raiseRpcError_transition {action : Action Node} {operation : Operation} :
    Transition topology before action (before.raiseRpcError node operation) := by
  have unchanged : Effects action.environment {} (before.engine node).control
      (before.engine node).control := .refl
  refine .ended .nothing unchanged ?_ fun _ impossible => impossible.elim
  cases operation <;> simp [Operation.rpcFailed, Outcome.Sound, PyError.Legitimate]

/-- An operation takes a reply: it goes on to its next call, or ends. -/
theorem stepResume_transition {answer call : Nat} {operation : Operation} {rpc : Rpc Node}
    {reply : Reply} {after : System Node} (consistent : (before.engine node).control.Consistent)
    (waiting : (before.engine node).operation = some operation)
    (isCall : operation.call? = some call) (sent : before.rpcs[call]? = some rpc)
    (answered : .ok reply ∈ rpc.answers)
    (joined : ∀ peer previous current, operation = .updating peer previous →
      (before.engine node).control.peers.get? peer.endpoint = some current →
      current.handle = peer.handle → current.state ≠ .created)
    (taken : before.stepResume topology node operation reply env = some after) :
    Transition topology before (.resume node answer env) after := by
  have unchanged : Effects env {} (before.engine node).control
      (before.engine node).control := .refl
  cases operation with
  | offering peer previous =>
      cases reply with
      | offer remote =>
          obtain rfl : previous = call := by simpa [Operation.call?] using isCall
          have performed := connectUpdate_performs (topology.endpoint node) env peer remote
            consistent
          simp only [stepResume] at taken
          cases run : (connectUpdate (topology.endpoint node) env peer remote).run
              (before.engine node).control with
          | error error control =>
              obtain ⟨effects, legitimate⟩ := performed.error run
              simp only [run, Option.some.injEq] at taken
              subst taken
              exact .ended (.join waiting sent answered) effects legitimate
                fun _ impossible => impossible.elim
          | ok update control =>
              obtain ⟨effects, rfl, current, held, sameHandle, isJoined⟩ := performed.ok run
              simp only [run, Option.some.injEq] at taken
              subst taken
              exact .sent (.join waiting sent answered) effects
                (waiting ▸ .update held sameHandle isJoined) fun _ impossible => impossible.elim
      | snapshot => simp [stepResume] at taken
      | empty => simp [stepResume] at taken
  | updating peer previous =>
      cases reply with
      | snapshot snapshot =>
          obtain rfl : previous = call := by simpa [Operation.call?] using isCall
          have performed := connectFinish_performs env peer snapshot consistent
            fun current => joined peer previous current rfl
          simp only [stepResume] at taken
          cases run : (connectFinish env peer snapshot).run (before.engine node).control with
          | error error control =>
              obtain ⟨effects, legitimate⟩ := performed.error run
              simp only [run, Option.some.injEq] at taken
              subst taken
              exact .ended (.finish waiting sent answered) effects legitimate
                fun _ impossible => impossible.elim
          | ok handle control =>
              obtain ⟨effects, rfl, current, held, sameHandle, isReady⟩ := performed.ok run
              simp only [run, Option.some.injEq] at taken
              subst taken
              exact .ended (.finish waiting sent answered) effects
                ⟨current, held, sameHandle, isReady⟩ fun _ impossible => impossible.elim
      | offer => simp [stepResume] at taken
      | empty => simp [stepResume] at taken
  | registered => simp [Operation.call?] at isCall
  | notifying metadata snapshot past rest previous =>
      cases reply with
      | empty =>
          simp only [stepResume, Option.some.injEq] at taken
          subst taken
          cases rest with
          | nil => exact .ended .nothing unchanged trivial fun _ impossible => impossible.elim
          | cons peer rest =>
              exact .sent .nothing unchanged (waiting ▸ .announceNext)
                fun _ impossible => impossible.elim
      | offer => simp [stepResume] at taken
      | snapshot => simp [stepResume] at taken
  | closing peer previous =>
      cases reply with
      | empty =>
          simp only [stepResume, Option.some.injEq] at taken
          subst taken
          exact .ended .nothing unchanged trivial fun _ impossible => impossible.elim
      | offer => simp [stepResume] at taken
      | snapshot => simp [stepResume] at taken

/-- Every step of a consistent system with fresh names is a transition. -/
theorem step_transition {action : Action Node} {after : System Node}
    (consistent : ∀ node, (before.engine node).control.Consistent)
    (joined : ∀ node peer call current,
      (before.engine node).operation = some (.updating peer call) →
      (before.engine node).control.peers.get? peer.endpoint = some current →
      current.handle = peer.handle → current.state ≠ .created)
    (fresh : before.FreshNames topology action)
    (taken : before.step topology action = some after) :
    Transition topology before action after := by
  cases action with
  | connect node endpoint env =>
      simp only [step, Option.ite_none_right_eq_some, Option.some.injEq] at taken
      obtain ⟨idle, rfl⟩ := taken
      exact stepConnect_transition (consistent node) fresh idle
  | disconnect node handle env =>
      simp only [step, Option.ite_none_right_eq_some, Option.some.injEq] at taken
      obtain ⟨idle, rfl⟩ := taken
      exact stepDisconnect_transition (consistent node) idle
  | registerLocalMemory node env =>
      simp only [step, Option.ite_none_right_eq_some, Option.some.injEq] at taken
      obtain ⟨idle, rfl⟩ := taken
      exact stepRegister_transition
  | publish node =>
      simp only [step] at taken
      split at taken
      · rename_i metadata waiting
        rw [Option.some.injEq] at taken
        exact taken ▸ stepPublish_transition (consistent node) waiting
      · simp at taken
  | handle call env =>
      simp only [step] at taken
      cases found : before.rpcs[call]? with
      | none => simp [found] at taken
      | some rpc =>
          cases reached : topology.resolve rpc.endpoint with
          | none => simp [found, reached] at taken
          | some target =>
              simp only [found, reached, Option.some.injEq] at taken
              subst taken
              exact stepHandle_transition found reached (consistent target)
                (fresh rpc (by simp [found]) target (by simp [reached]))
  | resume node index env =>
      simp only [step] at taken
      cases waiting : (before.engine node).operation with
      | none => simp [waiting] at taken
      | some operation =>
          simp only [waiting] at taken
          split at taken
          · simp at taken
          · rw [Option.some.injEq] at taken
            exact taken ▸ raiseRpcError_transition
          · rename_i reply answered
            obtain ⟨rpc, isRpc, isAnswer⟩ := Option.bind_eq_some_iff.mp answered
            obtain ⟨call, isCall, sent⟩ := Option.bind_eq_some_iff.mp isRpc
            exact stepResume_transition (consistent node) waiting isCall sent
              (List.mem_of_getElem? isAnswer)
              (fun peer previous current same => joined node peer previous current
                (same ▸ waiting)) taken
  | timeout node =>
      simp only [step] at taken
      cases waiting : (before.engine node).operation with
      | none => simp [waiting] at taken
      | some operation =>
          simp only [waiting, Option.ite_none_left_eq_some, Option.some.injEq] at taken
          exact taken.2 ▸ raiseRpcError_transition
  | close node =>
      simp only [step, Option.ite_none_right_eq_some, Option.some.injEq] at taken
      exact taken.2 ▸ .closed

end System

end Rdma101
