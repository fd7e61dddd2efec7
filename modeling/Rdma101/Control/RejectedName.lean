/-
Module: Rdma101.Control.RejectedName
Purpose: What a connect that is rejected because the dialed name is not the advertised one leaves
  behind when it ran alone, and how that refuses the next one.
Trusted boundary: none
Main exports: System.RunsAlone, LeftBehind, rejected_leaves, leftBehind_refuses, System.Strangers,
  System.Unfailing
-/
import Rdma101.Control.LostReplies

namespace Rdma101

open Wire ControlPlane ControlServicer

variable {Node : Type} [DecidableEq Node]

/-- The operation of one node goes on alone to its end: every RPC that it sends is handled once and
answered. -/
inductive System.RunsAlone (topology : Topology Node) (allowed : System Node → Action Node → Prop)
    (node : Node) : System Node → System Node → Prop where
  | ended {system : System Node} (idle : (system.engine node).operation = none) :
      RunsAlone topology allowed node system system
  | round {system handled resumed final : System Node} {call : Nat} {env resuming : Environment}
      (waits : (system.engine node).operation.bind Operation.call? = some call)
      (handles : system.step topology (.handle call env) = some handled)
      (obeys : allowed system (.handle call env))
      (resumes : handled.step topology (.resume node 0 resuming) = some resumed)
      (obeysToo : allowed handled (.resume node 0 resuming))
      (rest : RunsAlone topology allowed node resumed final) :
      RunsAlone topology allowed node system final

variable {topology : Topology Node} {system : System Node} {node other : Node}

/-- An offer that is handled by a node whose entry is connected to another peer is refused. -/
theorem connect_refuses {advertised : String} {env : Environment} {request : Offer}
    {control : ControlPlane} {theirs : Peer} (formed : control.WellFormed)
    (held : control.peers.get? request.connection.endpoint = some theirs)
    (joined : theirs.state ≠ .created)
    (otherId : theirs.remoteConnectionId ≠ request.connection.id) :
    ∃ error after, (connect advertised env request).run control = .error error after := by
  have isKey := formed.keyed held
  have heldHere : control.peers.get? theirs.endpoint = some theirs := by rw [isKey, held]
  rw [run_connect]
  split
  · exact ⟨_, _, rfl⟩
  split
  · exact ⟨_, _, rfl⟩
  rw [run_getOrCreatePeer, held]
  simp only [run_connectNative env request formed heldHere, joined, otherId, ne_eq,
    not_false_eq_true, if_true, if_false]
  split <;> rename_i isRun <;> split at isRun <;> simp_all

/-- `Engine.connect` up to its first RPC ends with an error of its own, returns a ready peer or
sends the offer of an entry. -/
theorem step_connect_cases {endpoint : String} {env : Environment} {dialed : System Node}
    (taken : system.step topology (.connect node endpoint env) = some dialed) :
    ((dialed.engine node).operation = none ∧ ∃ result, (dialed.engine node).outcomes =
        (system.engine node).outcomes ++ [.connect endpoint result] ∧
      result ≠ .error (.valueError "unexpected connection identity")) ∨
    ∃ peer control, (connectOffer (topology.endpoint node) env endpoint).run
        (system.engine node).control = .ok (.inr peer) control ∧
      dialed = (system.setEngine node ((system.engine node).proceed control
        (.offering peer system.rpcs.length))).send node endpoint
          (.connect (offer (topology.endpoint node) peer)) := by
  simp only [System.step, Option.ite_none_right_eq_some, Option.some.injEq] at taken
  obtain ⟨_, rfl⟩ := taken
  rw [System.stepConnect]
  cases run : (connectOffer (topology.endpoint node) env endpoint).run
      (system.engine node).control with
  | error error control =>
      refine .inl ⟨by simp [Engine.finish], .error error, by simp [Engine.finish], ?_⟩
      rintro isError
      obtain rfl := Except.error.inj isError
      rw [run_connectOffer] at run
      split at run
      · simp at run
      split at run
      · simp at run
      split at run
      · rename_i made
        rw [run_getOrCreatePeer] at made
        split at made
        · simp at made
        · rw [run_createPeer] at made
          split at made <;> simp_all
      · simp at run
  | ok result control =>
      cases result with
      | inl handle =>
          exact .inl ⟨by simp [Engine.finish], .ok handle, by simp [Engine.finish], by simp⟩
      | inr peer => exact .inr ⟨peer, control, rfl, rfl⟩

/-- One round of a connect whose offer reaches another node: the handler runs there, and the
connect takes what it returned or raised. -/
theorem offer_round {handled resumed : System Node} {peer : Peer} {call : Nat} {address : String}
    {env resuming : Environment} (apart : other ≠ node)
    (running : (system.engine node).operation = some (.offering peer call))
    (sent : system.rpcs[call]? = some
      { caller := node, endpoint := address,
        request := .connect (offer (topology.endpoint node) peer) })
    (reaches : topology.resolve address = some other)
    (handles : system.step topology (.handle call env) = some handled)
    (resumes : handled.step topology (.resume node 0 resuming) = some resumed) :
    handled.engine node = system.engine node ∧
    ((∃ error control, (connect (topology.endpoint other) env
          (offer (topology.endpoint node) peer)).run (system.engine other).control =
            .error error control ∧
        resumed = handled.raiseRpcError node (.offering peer call)) ∨
      ∃ reply, (connect (topology.endpoint other) env
          (offer (topology.endpoint node) peer)).run (system.engine other).control =
            .ok reply (handled.engine other).control ∧
        handled.stepResume topology node (.offering peer call) reply resuming = some resumed) := by
  obtain ⟨rpc, target, later, found, reached, isLater, _, _, _, answers, isControl⟩ :=
    step_handle_answer handles
  obtain rfl := Option.some.inj (found.symm.trans sent)
  obtain rfl : target = other := by simpa [reaches, eq_comm] using reached
  have same : handled.engine node = system.engine node := by
    obtain ⟨_, _, found', reached', isHandled⟩ := step_handle handles
    obtain rfl := Option.some.inj (found'.symm.trans found)
    obtain rfl := Option.some.inj (reached'.symm.trans reached)
    simp [isHandled, System.setEngine_engine, apart.symm]
  refine ⟨same, ?_⟩
  have stillRunning : (handled.engine node).operation = some (.offering peer call) := by
    rw [same, running]
  rcases System.step_goes_on resumes rfl stillRunning rfl with
    ⟨isResumed, impossible | ⟨index, env', given, error, isResume, isGiven, answered⟩⟩ |
    ⟨index, env', given, reply, isResume, isGiven, answered, taken⟩
  · simp at impossible
  all_goals
    obtain rfl := Option.some.inj (isGiven.symm.trans isLater)
    obtain ⟨rfl, rfl⟩ : 0 = index ∧ resuming = env' := by simpa using isResume
    rw [answers, serveResult] at answered
    rw [serveResult] at isControl
  · refine .inl ?_
    cases run : (connect (topology.endpoint target) env
        (offer (topology.endpoint node) peer)).run (system.engine target).control with
    | error raised control => exact ⟨raised, control, rfl, isResumed⟩
    | ok reply control => simp [serve, run] at answered
  · refine .inr ⟨reply, ?_, taken⟩
    cases run : (connect (topology.endpoint target) env
        (offer (topology.endpoint node) peer)).run (system.engine target).control with
    | error raised control => simp [serve, run] at answered
    | ok given control =>
        obtain rfl : given = reply := by simpa [serve, run] using answered
        simp [isControl, serve, run]

section Runs

variable {allowed : System Node → Action Node → Prop}

/-- An operation that has ended runs no further. -/
theorem System.RunsAlone.of_idle {final : System Node}
    (alone : System.RunsAlone topology allowed node system final)
    (idle : (system.engine node).operation = none) : final = system := by
  cases alone with
  | ended => rfl
  | round waits => simp [idle] at waits

/-- A run of one operation alone is a run. -/
theorem System.RunsAlone.leads {final : System Node}
    (alone : System.RunsAlone topology allowed node system final) :
    (controlSystem topology).Leads allowed system final := by
  induction alone with
  | ended => exact .refl
  | round _ handles obeys resumes obeysToo _ inductionHypothesis =>
      exact .trans (.step (.step .refl obeys handles) obeysToo resumes) inductionHypothesis

/-- Compute a run of `RunsAlone` from the environments of its rounds. -/
def System.runAlone (topology : Topology Node) (allowed : System Node → Action Node → Prop)
    [∀ system action, Decidable (allowed system action)] (node : Node) :
    List (Environment × Environment) → System Node → Option (System Node)
  | [], system => if (system.engine node).operation = none then some system else none
  | (env, resuming) :: rounds, system =>
      ((system.engine node).operation.bind Operation.call?).bind fun call =>
        ((system.step topology (.handle call env)).filter
            fun _ => allowed system (.handle call env)).bind fun handled =>
          ((handled.step topology (.resume node 0 resuming)).filter
              fun _ => allowed handled (.resume node 0 resuming)).bind
            (runAlone topology allowed node rounds)

theorem System.RunsAlone.of_runAlone [∀ system action, Decidable (allowed system action)]
    {rounds : List (Environment × Environment)} {final : System Node}
    (computed : system.runAlone topology allowed node rounds = some final) :
    System.RunsAlone topology allowed node system final := by
  induction rounds generalizing system with
  | nil =>
      simp only [runAlone, Option.ite_none_right_eq_some, Option.some.injEq] at computed
      exact computed.2 ▸ .ended computed.1
  | cons round rounds inductionHypothesis =>
      obtain ⟨env, resuming⟩ := round
      simp only [runAlone, Option.bind_eq_some_iff, Option.filter_eq_some_iff,
        decide_eq_true_eq] at computed
      obtain ⟨call, waits, handled, ⟨handles, obeys⟩, resumed, ⟨resumes, obeysToo⟩, rest⟩ :=
        computed
      exact .round (by simpa [Option.bind_eq_some_iff] using waits) handles obeys resumes obeysToo
        (inductionHypothesis rest)

/-- The entry that the first section of `connect` makes where the table has none. -/
theorem connectOffer_makes {advertised address : String} {env : Environment}
    {control after : ControlPlane} {peer : Peer} (absent : control.peers.get? address = none)
    (run : (connectOffer advertised env address).run control = .ok (.inr peer) after) :
    control.closed = false ∧ ∃ fresh, peer = freshPeer fresh address env.uuid4 ∧
      after = control.addPeer peer := by
  rw [run_connectOffer] at run
  split at run
  · simp at run
  split at run
  · simp at run
  rename_i isOpen
  refine ⟨by simpa using isOpen, ?_⟩
  rw [run_getOrCreatePeer, absent] at run
  simp only [run_createPeer] at run
  cases answer : env.createPeer with
  | error code => simp [answer] at run
  | ok fresh =>
      simp only [answer, freshPeer, reduceCtorEq, if_false] at run
      obtain ⟨isPeer, rfl⟩ := EStateM.Result.ok.inj run
      obtain rfl := Sum.inr.inj isPeer
      exact ⟨fresh, rfl, rfl⟩

/-- What a connect that was rejected for its name leaves behind: the dialed node is connected to a
peer that the caller keeps under another name. -/
structure LeftBehind (topology : Topology Node) (system : System Node) (node other : Node)
    (theirs origin : Peer) : Prop where
  idle : (system.engine node).operation = none
  opened : (system.engine node).control.closed = false
  absent : (system.engine node).control.peers.get? (topology.endpoint other) = none
  made : origin ∈ (system.engine node).control.created
  held : (system.engine other).control.peers.get? (topology.endpoint node) = some theirs
  joined : theirs.state ≠ .created
  named : theirs.remoteConnectionId = origin.connectionId

theorem rejected_leaves {dialed rejected : System Node} {address : String} {env : Environment}
    (fresh : ∀ system action, allowed system action → system.FreshNames topology action)
    (reached : (controlSystem topology).Reachable allowed system)
    (apart : other ≠ node) (reaches : topology.resolve address = some other)
    (misnamed : address ≠ topology.endpoint other)
    (absent : (system.engine node).control.peers.get? address = none)
    (absentToo : (system.engine node).control.peers.get? (topology.endpoint other) = none)
    (obeys : allowed system (.connect node address env))
    (taken : system.step topology (.connect node address env) = some dialed)
    (alone : System.RunsAlone topology allowed node dialed rejected)
    (raised : (rejected.engine node).outcomes = (system.engine node).outcomes ++
      [.connect address (.error (.valueError "unexpected connection identity"))]) :
    ∃ theirs origin, LeftBehind topology rejected node other theirs origin := by
  have reachedDialed : (controlSystem topology).Reachable allowed dialed :=
    .step reached obeys taken
  rcases step_connect_cases taken with ⟨idle, result, outcomes, notRejected⟩ |
    ⟨peer, control, run, isDialed⟩
  · obtain rfl := alone.of_idle idle
    rw [outcomes] at raised
    simp only [List.append_cancel_left_eq, List.cons.injEq, Outcome.connect.injEq] at raised
    exact absurd raised.1.2 notRejected
  obtain ⟨isOpen, made, isPeer, rfl⟩ := connectOffer_makes absent run
  have endpointPeer : peer.endpoint = address := by simp [isPeer, freshPeer]
  have running : (dialed.engine node).operation =
      some (.offering peer system.rpcs.length) := by simp [isDialed, Engine.proceed]
  cases alone with
  | ended idle => simp [running] at idle
  | @round _ handled resumed _ call handling resuming waits handles obeysHandle resumes
      obeysResume rest =>
      obtain rfl : system.rpcs.length = call := by simpa [running, Operation.call?] using waits
      obtain ⟨same, ⟨_, _, _, isResumed⟩ | ⟨reply, served, isResumed⟩⟩ :=
        offer_round apart running (by simp [isDialed]) reaches handles resumes
      · -- The dialed node has refused, so the connect did not see the other name.
        obtain rfl := rest.of_idle (by simp [isResumed, System.raiseRpcError, Engine.finish])
        rw [isResumed] at raised
        simp [System.raiseRpcError, Engine.finish, Operation.rpcFailed, same, isDialed,
          Engine.proceed] at raised
      · have reachedHandled : (controlSystem topology).Reachable allowed handled :=
          .step reachedDialed obeysHandle handles
        have authentic := authentic_of_reachable fresh reachedHandled
        have freshThere : dialed.FreshFor other handling :=
          fresh _ _ obeysHandle
            { caller := node, endpoint := address,
              request := .connect (offer (topology.endpoint node) peer) }
            (by simp [isDialed]) other reaches
        have consistent := (authentic_of_reachable fresh reachedDialed).consistent other
        obtain ⟨current, rfl⟩ : ∃ current, reply =
            .offer (offer (topology.endpoint other) current) := by
          have performed := serve_performs (topology.endpoint other) handling
            (.connect (offer (topology.endpoint node) peer)) consistent
            fun _ _ => freshThere.control
          obtain ⟨_, current, _, isReply⟩ := performed.ok served
          exact ⟨current, isReply⟩
        obtain ⟨theirs, held, named, _⟩ :=
          connect_acknowledges consistent freshThere.control served
        have here : (handled.engine node).control = (system.engine node).control.addPeer peer := by
          simp [same, isDialed, Engine.proceed]
        have heldHere : (handled.engine node).control.peers.get? peer.endpoint = some peer := by
          simp [here]
        have formed := (authentic.consistent node).formed heldHere
        have isRun : (connectUpdate (topology.endpoint node) resuming peer
            (offer (topology.endpoint other) current)).run (handled.engine node).control =
              .error (.valueError "unexpected connection identity")
                (handled.engine node).control := by
          rw [run_connectUpdate, run_requirePeer, heldHere]
          simp [run_connectNative _ _ formed heldHere, offer, connection, endpointPeer,
            misnamed.symm]
        simp only [System.stepResume, isRun, Option.some.injEq] at isResumed
        obtain rfl := rest.of_idle (by simp [← isResumed, Engine.finish])
        have idNonempty : peer.connectionId ≠ "" := by
          have isFresh : system.FreshFor node env := fresh _ _ obeys
          simpa [isPeer, freshPeer] using isFresh.nonempty
        refine ⟨theirs, peer, by simp [← isResumed, Engine.finish], ?_, ?_, ?_, ?_, ?_, named⟩
        · rw [← isResumed, System.setEngine_engine_self, Engine.finish, here]
          exact isOpen
        · rw [← isResumed, System.setEngine_engine_self, Engine.finish, here]
          simpa [endpointPeer, misnamed.symm] using absentToo
        · rw [← isResumed, System.setEngine_engine_self, Engine.finish, here]
          simp [addPeer]
        · rw [← isResumed, System.setEngine_engine, if_neg apart]
          exact held
        · intro unconnected
          apply idNonempty
          exact named.symm.trans
            ((((authentic.consistent other).formed held).named held).mp unconnected)

/-- A connect to the advertised name that follows is refused by the entry that was left behind. -/
theorem leftBehind_refuses {calling final : System Node} {env : Environment} {theirs origin : Peer}
    (fresh : ∀ system action, allowed system action → system.FreshNames topology action)
    (succeeds : ∀ system action, allowed system action → action.NativeSucceeds)
    (authentic : Authentic topology system) (apart : other ≠ node)
    (left : LeftBehind topology system node other theirs origin)
    (obeys : allowed system (.connect node (topology.endpoint other) env))
    (taken : system.step topology (.connect node (topology.endpoint other) env) = some calling)
    (alone : System.RunsAlone topology allowed node calling final) :
    (final.engine node).outcomes = (system.engine node).outcomes ++
      [.connect (topology.endpoint other) (.error .rpcError)] := by
  have isFresh : system.FreshFor node env := fresh _ _ obeys
  have remote : ¬(topology.endpoint other = "" ∨
      topology.endpoint other = topology.endpoint node) := by
    rintro (empty | same)
    · exact topology.endpoint_ne_empty other empty
    · exact apart (topology.endpoint_injective same)
  have nativeSucceeds : env.Succeeds := succeeds _ _ obeys
  obtain ⟨result, control, run, offers⟩ := connectOffer_smooth nativeSucceeds left.opened remote
  cases offers with
  | ready held => simp [left.absent] at held
  | again held => simp [left.absent] at held
  | @new made _ _ rewrites =>
      simp only [System.step, left.idle, if_true, System.stepConnect, run,
        Option.some.injEq] at taken
      have running : (calling.engine node).operation = some (.offering
          (freshPeer made (topology.endpoint other) env.uuid4) system.rpcs.length) := by
        simp [← taken, Engine.proceed]
      cases alone with
      | ended idle => simp [running] at idle
      | @round _ handled resumed _ call handling resuming waits handles obeysHandle resumes
          obeysResume rest =>
          obtain rfl : system.rpcs.length = call := by simpa [running, Operation.call?] using waits
          obtain ⟨same, outcome⟩ := offer_round apart running (by simp [← taken])
            (topology.resolve_endpoint other) handles resumes
          -- The handler finds the entry that is connected to the other peer.
          have sameThere : calling.engine other = system.engine other := by
            simp [← taken, System.setEngine_engine, apart]
          have otherId : theirs.remoteConnectionId ≠ env.uuid4 := by
            rw [left.named]
            exact isFresh.id node origin left.made
          obtain ⟨error, after, refused⟩ : ∃ error after, (connect (topology.endpoint other)
              handling (offer (topology.endpoint node) (freshPeer made (topology.endpoint other)
                env.uuid4))).run (system.engine other).control = .error error after :=
            connect_refuses ((authentic.consistent other).formed left.held) left.held left.joined
              otherId
          rw [sameThere, refused] at outcome
          rcases outcome with ⟨_, _, _, isResumed⟩ | ⟨reply, impossible, _⟩
          · obtain rfl := rest.of_idle (by simp [isResumed, System.raiseRpcError, Engine.finish])
            simp [isResumed, System.raiseRpcError, Engine.finish, Operation.rpcFailed, same,
              ← taken, Engine.proceed, freshPeer]
          · simp at impossible

end Runs

/-- Neither node has an entry under any name of the other. -/
structure System.Strangers (topology : Topology Node) (system : System Node) (node other : Node) :
    Prop where
  here : ∀ key, topology.resolve key = some other →
    (system.engine node).control.peers.get? key = none
  there : ∀ key, topology.resolve key = some node →
    (system.engine other).control.peers.get? key = none

/-- The steps of one connect that succeeds natively. -/
def System.Unfailing (topology : Topology Node) (system : System Node) (action : Action Node) :
    Prop :=
  system.FreshNames topology action ∧ action.NativeSucceeds

instance [Fintype Node] (topology : Topology Node) (system : System Node) (action : Action Node) :
    Decidable (system.Unfailing topology action) :=
  inferInstanceAs (Decidable (_ ∧ _))

end Rdma101
