/-
Module: Rdma101.Control.Acknowledged
Purpose: Runs in which no application disconnects: every entry stays in the table of an engine
  that is open, and an answer that returned tells what the table of its target holds from then on.
Trusted boundary: none
Main exports: System.NoCloses, Transition.persists, Acknowledges, System.Acknowledged,
  Transition.acknowledged
-/
import Rdma101.Control.HandlerSteps

namespace Rdma101

open Wire ControlPlane ControlServicer

/-! ### Entries that stay -/

section Effects

variable {env : Environment} {grant : Grant} {before after : ControlPlane}

/-- An effect that destroys no peer keeps every entry as a later state of its object. -/
theorem Effect.persists (effect : Effect env grant before after) (consistent : before.Consistent)
    (noDestroys : ∀ peer, ¬grant.destroys peer) {key : String} {peer : Peer}
    (held : before.peers.get? key = some peer) :
    ∃ later, after.peers.get? key = some later ∧ peer.Succeeds later := by
  have evolves := effect.evolves consistent
  have consistentAfter := effect.consistent consistent
  -- An entry that is there after the effect and was not made by it is the old one.
  have stays : after.created = before.created → after.peers.get? key ≠ none →
      ∃ later, after.peers.get? key = some later ∧ peer.Succeeds later := by
    intro sameCreated present
    obtain ⟨later, isLater⟩ := Option.ne_none_iff_exists'.mp present
    rcases evolves.origin isLater with ⟨earlier, isEarlier, succeeds⟩ | ⟨_, _, unused⟩
    · obtain rfl : peer = earlier := by simpa [held] using isEarlier
      exact ⟨later, isLater, succeeds⟩
    · obtain ⟨origin, made, sameObject⟩ := (consistentAfter.formed isLater).fromCreated isLater
      exact absurd sameObject.handle (unused origin (sameCreated ▸ made))
  have overwritten : ∀ (endpoint : String) (other : Peer),
      (before.peers.set endpoint other).get? key ≠ none := by
    intro endpoint other
    rw [OrderedDict.get?_set]
    split <;> simp [held]
  cases effect with
  | @addPeer fresh endpoint isOpen answer absent =>
      have elsewhere : key ≠ endpoint := fun same => by simp [← same, held] at absent
      exact ⟨peer, by simp [freshPeer, elsewhere, held], .refl peer⟩
  | joinPeer => exact stays rfl (overwritten _ _)
  | joinFailed => exact ⟨peer, held, .refl peer⟩
  | deliver => exact ⟨peer, held, .refl peer⟩
  | importAll => exact stays rfl (overwritten _ _)
  | importPart => exact ⟨peer, held, .refl peer⟩
  | markReady => exact stays rfl (overwritten _ _)
  | dropPeer _ granted => exact absurd granted (noDestroys _)
  | dropFailed => exact ⟨peer, held, .refl peer⟩
  | append => exact ⟨peer, held, .refl peer⟩
  | register => exact ⟨peer, held, .refl peer⟩

theorem Effects.persists (effects : Effects env grant before after)
    (consistent : before.Consistent) (noDestroys : ∀ peer, ¬grant.destroys peer) {key : String}
    {peer : Peer} (held : before.peers.get? key = some peer) :
    ∃ later, after.peers.get? key = some later ∧ peer.Succeeds later := by
  induction effects with
  | refl => exact ⟨peer, held, .refl peer⟩
  | tail earlier effect inductionHypothesis =>
      obtain ⟨middle, isMiddle, succeeded⟩ := inductionHypothesis
      obtain ⟨later, isLater, succeeds⟩ :=
        effect.persists (Effects.consistent earlier consistent) noDestroys isMiddle
      exact ⟨later, isLater, succeeded.trans succeeds⟩

end Effects

/-! ### What a section that returned did

An answer that returned is a fact about the table of its target at that time.  Without
disconnects entries only move forward, so it stays a fact, and the invariant of the run says it
of every answer that is on record. -/

section Returning

variable {env : Environment} {advertised : String} {control after : ControlPlane}

/-- `_connect_native` that returned leaves the peer connected to the offer. -/
theorem connectNative_joined {peer : Peer} {offer : Offer} (formed : control.WellFormed)
    (held : control.peers.get? peer.endpoint = some peer)
    (run : (connectNative env peer offer).run control = .ok () after) :
    offer.connection.endpoint = peer.endpoint ∧ offer.connection.id ≠ "" ∧
      ∃ current, after.peers.get? peer.endpoint = some current ∧ current.SameObject peer ∧
        current.remoteConnectionId = offer.connection.id := by
  rw [run_connectNative env offer formed held] at run
  split at run
  · simp at run
  · rename_i identity
    rw [not_or, not_not] at identity
    refine ⟨identity.1, identity.2, ?_⟩
    split at run
    · cases answer : env.connectPeer with
      | error code => simp [answer] at run
      | ok =>
          obtain rfl : control.joinPeer peer offer = after := by simpa [answer] using run
          exact ⟨_, OrderedDict.get?_set_self _ _ _, ⟨rfl, rfl, rfl, rfl⟩, rfl⟩
    · split at run
      · simp at run
      · rename_i known
        obtain rfl : control = after := by simpa using run
        exact ⟨peer, held, .refl peer, not_not.mp known⟩

/-- `_import_snapshot` that returned leaves the peer at the version of the snapshot at least. -/
theorem importSnapshot_delivers {peer : Peer} {snapshot : Snapshot} (formed : control.WellFormed)
    (held : control.peers.get? peer.endpoint = some peer) (joined : peer.state ≠ .created)
    (run : (importSnapshot env peer snapshot).run control = .ok () after) :
    ∃ current, after.peers.get? peer.endpoint = some current ∧ current.SameObject peer ∧
      current.remoteConnectionId = peer.remoteConnectionId ∧ current.state = peer.state ∧
      (snapshot.version : Int) ≤ current.remoteVersion := by
  rcases run_importSnapshot env snapshot formed held joined with
    ⟨stale, computed⟩ | ⟨newer, computed⟩ | ⟨_, _, _, _, _, _, _, computed⟩
  · obtain rfl : control.deliver peer snapshot.version = after := by
      simpa [computed] using run
    exact ⟨peer, held, .refl peer, rfl, rfl, by omega⟩
  · rw [computed] at run
    obtain ⟨-, rfl⟩ := EStateM.Result.ok.inj run
    exact ⟨_, OrderedDict.get?_set_self _ _ _, ⟨rfl, rfl, rfl, rfl⟩, rfl, rfl, Int.le_refl _⟩
  · simp [computed] at run

/-- What an answer that returned tells about the peer that its request is about. -/
def Acknowledges (peer : Peer) : Request → Reply → Prop
  | .connect request, .offer reply => peer.remoteConnectionId = request.connection.id ∧
      peer.connectionId = reply.connection.id
  | .ready request, _ => peer.remoteConnectionId = request.connection.id ∧
      peer.state = .ready ∧ (request.snapshot.version : Int) ≤ peer.remoteVersion
  | .changed request, _ => peer.remoteConnectionId = request.connection.id ∧
      (request.snapshot.version : Int) ≤ peer.remoteVersion
  | _, _ => True

/-- A ready peer stays ready. -/
theorem Peer.Succeeds.stays_ready {peer later : Peer} (succeeds : peer.Succeeds later)
    (isReady : peer.state = .ready) : later.state = .ready := by
  have rank := succeeds.rank
  rw [isReady] at rank
  cases isLater : later.state <;> simp_all [PeerState.rank]

/-- A later state of the peer tells it too. -/
theorem Acknowledges.succeeds {peer later : Peer} {request : Request} {reply : Reply}
    (acknowledges : Acknowledges peer request reply) (succeeds : peer.Succeeds later)
    (named : request.connection.id ≠ "") : Acknowledges later request reply := by
  have remote : peer.remoteConnectionId = request.connection.id →
      later.remoteConnectionId = request.connection.id := fun same =>
    (succeeds.remote (same ▸ named)).trans same
  have version := succeeds.version
  cases request with
  | connect request =>
      cases reply with
      | offer reply =>
          exact ⟨remote acknowledges.1,
            succeeds.sameObject.connectionId.trans acknowledges.2⟩
      | snapshot | empty => trivial
  | ready request =>
      exact ⟨remote acknowledges.1, succeeds.stays_ready acknowledges.2.1,
        Int.le_trans acknowledges.2.2 version⟩
  | changed request => exact ⟨remote acknowledges.1, Int.le_trans acknowledges.2 version⟩
  | close => trivial

/-- A lookup that returned found a connected entry with the id. -/
theorem findConnection_finds {connection : Connection} {peer : Peer}
    (consistent : control.Consistent)
    (run : (findConnection connection).run control = .ok peer after) :
    control = after ∧ control.peers.get? peer.endpoint = some peer ∧
      peer.endpoint = connection.endpoint ∧ peer.remoteConnectionId = connection.id ∧
      peer.state ≠ .created := by
  have performed : Section Environment.idle {} (findConnection connection) control _ :=
    findConnection_performs consistent
  obtain ⟨-, rfl, held, sameEndpoint, sameRemote, named⟩ := performed.ok run
  refine ⟨rfl, held, sameEndpoint, sameRemote, fun unconnected => named ?_⟩
  rw [← sameRemote, ((consistent.formed held).named held).mp unconnected]

/-- An import and a mark that returned leave the peer ready at the version of the snapshot. -/
theorem importReady_delivers {peer : Peer} {snapshot : Snapshot} {middle : ControlPlane}
    (formed : control.WellFormed) (held : control.peers.get? peer.endpoint = some peer)
    (joined : peer.state ≠ .created)
    (imports : (importSnapshot env peer snapshot).run control = .ok () middle)
    (marks : (markReady peer).run middle = .ok () after) :
    ∃ current, after.peers.get? peer.endpoint = some current ∧ current.SameObject peer ∧
      current.remoteConnectionId = peer.remoteConnectionId ∧ current.state = .ready ∧
      (snapshot.version : Int) ≤ current.remoteVersion := by
  obtain ⟨imported, stored, sameObject, sameRemote, _, version⟩ :=
    importSnapshot_delivers formed held joined imports
  have sameProgram : markReady peer = markReady imported := by
    rw [markReady, markReady, sameObject.endpoint]
  rw [sameProgram, run_markReady (sameObject.endpoint ▸ stored)] at marks
  obtain ⟨-, rfl⟩ := EStateM.Result.ok.inj marks
  exact ⟨{ imported with state := .ready }, by simp [sameObject.endpoint],
    ⟨sameObject.handle, sameObject.endpoint, sameObject.metadata, sameObject.connectionId⟩,
    sameRemote, rfl, version⟩

/-- The handler of `Connect` that returned leaves an entry connected to the offer. -/
theorem connect_acknowledges {request : Offer} {reply : Reply} (consistent : control.Consistent)
    (fresh : env.FreshFor control)
    (run : (connect advertised env request).run control = .ok reply after) :
    ∃ peer, after.peers.get? request.connection.endpoint = some peer ∧
      Acknowledges peer (.connect request) reply := by
  rw [run_connect] at run
  split at run
  · simp at run
  split at run
  · simp at run
  rename_i isOpen
  have made : Section env { creates := fun _ => True }
      (getOrCreatePeer env request.connection.endpoint) control _ :=
    getOrCreatePeer_performs (by simpa using isOpen) consistent fresh trivial
  split at run
  · simp at run
  rename_i peer middle found
  obtain ⟨effects, sameEndpoint, held⟩ := made.ok found
  have formed := (Effects.consistent effects consistent).formed held
  split at run
  · simp at run
  rename_i joins
  obtain ⟨rfl, rfl⟩ := EStateM.Result.ok.inj run
  obtain ⟨_, _, current, stored, sameObject, sameRemote⟩ :=
    connectNative_joined formed (sameEndpoint.symm ▸ held) joins
  exact ⟨current, sameEndpoint ▸ stored, sameRemote, sameObject.connectionId⟩

/-- The handler of `Changed` that returned leaves an entry at the version of the snapshot. -/
theorem changed_acknowledges {request : Update} {reply : Reply} (consistent : control.Consistent)
    (run : (changed env request).run control = .ok reply after) :
    ∃ peer, after.peers.get? request.connection.endpoint = some peer ∧
      Acknowledges peer (.changed request) reply := by
  rw [run_changed] at run
  split at run
  · simp at run
  split at run
  · simp at run
  rename_i peer middle found
  obtain ⟨rfl, held, sameEndpoint, sameRemote, joined⟩ :=
    findConnection_finds consistent found
  split at run
  · simp at run
  rename_i imports
  obtain ⟨-, rfl⟩ := EStateM.Result.ok.inj run
  obtain ⟨current, stored, _, keptRemote, _, version⟩ :=
    importSnapshot_delivers (consistent.formed held) held joined imports
  exact ⟨current, by rw [← sameEndpoint, stored], keptRemote.trans sameRemote, version⟩

/-- A handler that returned leaves the entry that its answer tells of. -/
theorem serve_acknowledges {request : Request} {reply : Reply} (consistent : control.Consistent)
    (fresh : env.FreshFor control) (notClose : ∀ connection, request ≠ .close connection)
    (run : (serve advertised env request).run control = .ok reply after) :
    ∃ peer, after.peers.get? request.connection.endpoint = some peer ∧
      Acknowledges peer request reply := by
  cases request with
  | close connection => exact absurd rfl (notClose connection)
  | connect request => exact connect_acknowledges consistent fresh run
  | ready request =>
      rw [serve, run_ready] at run
      split at run
      · simp at run
      split at run
      · simp at run
      rename_i peer middle found
      obtain ⟨rfl, held, sameEndpoint, sameRemote, joined⟩ :=
        findConnection_finds consistent found
      split at run
      · simp at run
      rename_i imports
      split at run
      · simp at run
      rename_i marks
      obtain ⟨-, rfl⟩ := EStateM.Result.ok.inj run
      obtain ⟨current, stored, _, keptRemote, isReady, version⟩ :=
        importReady_delivers (consistent.formed held) held joined imports marks
      exact ⟨current, by rw [Wire.Request.connection, ← sameEndpoint, stored],
        keptRemote.trans sameRemote, isReady, version⟩
  | changed request => exact changed_acknowledges consistent run

end Returning

variable {Node : Type}

/-- No request to close a connection was sent. -/
def System.NoCloses (system : System Node) : Prop :=
  ∀ rpc ∈ system.rpcs, ∀ connection, rpc.request ≠ .close connection

/-- Between open engines every answer that returned still tells what the table of its target
holds. -/
def System.Acknowledged (topology : Topology Node) (system : System Node) : Prop :=
  ∀ rpc ∈ system.rpcs, ∀ reply, .ok reply ∈ rpc.answers → ∀ target,
    topology.resolve rpc.endpoint = some target →
    (system.engine rpc.caller).control.closed = false →
    (system.engine target).control.closed = false →
    ∃ peer, (system.engine target).control.peers.get? rpc.request.connection.endpoint =
      some peer ∧ Acknowledges peer rpc.request reply

/-- A request names an id. -/
theorem Authentic.request_named {topology : Topology Node} {before : System Node}
    (authentic : Authentic topology before) {rpc : Rpc Node}
    (member : rpc ∈ before.rpcs)
    (isOpen : (before.engine rpc.caller).control.closed = false) :
    rpc.request.connection.id ≠ "" := by
  obtain ⟨origin, made, _, about⟩ := authentic.requests rpc member
  have nonempty := ((authentic.consistent rpc.caller).opened isOpen).idNonempty origin made
  cases isRequest : rpc.request with
  | connect request =>
      simp only [isRequest] at about
      rw [about]
      exact nonempty
  | ready request | changed request | close request =>
      simp only [isRequest] at about
      rw [Wire.Request.connection, about.1]
      exact nonempty

section Stepping

variable [DecidableEq Node] {topology : Topology Node} {before after : System Node}
  {action : Action Node}

theorem Transition.noCloses (transition : Transition topology before action after)
    (taken : before.step topology action = some after) (noDisconnect : action.NoDisconnect)
    (noCloses : before.NoCloses) : after.NoCloses := by
  intro rpc member
  cases transition with
  | ended => exact noCloses rpc member
  | registered => exact noCloses rpc member
  | closed => exact noCloses rpc member
  | @sent _ node grant control operation endpoint request entitled effects sends =>
      rcases List.mem_append.mp member with old | new
      · exact noCloses rpc old
      · rintro connection isClose
        obtain rfl : request = .close connection := by
          rw [List.mem_singleton.mp new] at isClose
          exact isClose
        generalize isBefore : (before.engine node).operation = previous at sends
        cases sends with
        | close =>
            obtain ⟨handle, env, rfl⟩ := System.step_starts taken isBefore
              (by simp only [System.send_engine, System.setEngine_engine_self]; rfl)
            exact noDisconnect
  | @handled number env old target control result =>
      obtain ⟨index, isRpc⟩ := List.mem_iff_getElem?.mp member
      rw [System.answer_getElem?, System.setEngine_rpcs] at isRpc
      split at isRpc
      · obtain ⟨earlier, isOld, rfl⟩ := Option.map_eq_some_iff.mp isRpc
        exact noCloses earlier (List.mem_of_getElem? isOld)
      · exact noCloses rpc (List.mem_of_getElem? isRpc)

/-- Every entry of an engine that is open stays. -/
theorem Transition.persists (transition : Transition topology before action after)
    (authentic : Authentic topology before) (noDisconnect : action.NoDisconnect)
    (noCloses : before.NoCloses) {node : Node} {key : String} {peer : Peer}
    (isOpen : (after.engine node).control.closed = false)
    (held : (before.engine node).control.peers.get? key = some peer) :
    ∃ later, (after.engine node).control.peers.get? key = some later ∧ peer.Succeeds later := by
  obtain ⟨actor, others, change⟩ := transition.effects
  by_cases here : node = actor
  · subst here
    rcases change with ⟨grant, entitled, _, effects⟩ | ⟨rfl, isClosed⟩
    · refine Effects.persists effects (authentic.consistent node) (fun other granted => ?_) held
      cases entitled with
      | disconnect => exact noDisconnect
      | @handle _ _ _ rpc sent =>
          cases isRequest : rpc.request with
          | close connection => exact noCloses rpc (List.mem_of_getElem? sent) connection isRequest
          | connect | ready | changed => simp [isRequest, Request.grant] at granted
      | _ => exact granted
    · rw [isClosed, ControlPlane.close] at isOpen
      split at isOpen
      · rename_i wasClosed
        simp [wasClosed] at isOpen
      · simp at isOpen
  · exact ⟨peer, by rw [others node here, held], .refl peer⟩

/-- An engine that is open was open. -/
theorem Transition.was_open (transition : Transition topology before action after) {node : Node}
    (authentic : Authentic topology before)
    (isOpen : (after.engine node).control.closed = false) :
    (before.engine node).control.closed = false := by
  obtain ⟨env, grant, _, evolves⟩ := (transition.grows authentic.consistent).evolves node
  exact evolves.opened isOpen

/-- Answers are only added. -/
theorem Transition.answers (transition : Transition topology before action after) {call : Nat}
    {rpc : Rpc Node} (found : before.rpcs[call]? = some rpc) :
    ∃ later : Rpc Node, after.rpcs[call]? = some later ∧ later.request = rpc.request ∧
      rpc.answers ⊆ later.answers := by
  cases transition with
  | ended => exact ⟨rpc, found, rfl, List.Subset.refl _⟩
  | registered => exact ⟨rpc, found, rfl, List.Subset.refl _⟩
  | closed => exact ⟨rpc, found, rfl, List.Subset.refl _⟩
  | sent =>
      refine ⟨rpc, ?_, rfl, List.Subset.refl _⟩
      simpa [List.getElem?_append_left (List.getElem?_eq_some_iff.mp found).1] using found
  | @handled number env _ target control result =>
      by_cases same : call = number
      · exact ⟨{ rpc with answers := rpc.answers ++ [result] },
          by simp [System.answer_getElem?, ← same, found], rfl, List.subset_append_left _ _⟩
      · exact ⟨rpc, by simpa [System.answer_getElem?, same] using found, rfl,
          List.Subset.refl _⟩

/-- The step that handles a request, in terms of what its handler ends with. -/
theorem step_handle {call : Nat} {env : Environment}
    (taken : before.step topology (.handle call env) = some after) :
    ∃ rpc target, before.rpcs[call]? = some rpc ∧ topology.resolve rpc.endpoint = some target ∧
      after = (before.setEngine target { before.engine target with
          control := (serveResult (topology.endpoint target) env rpc.request
            (before.engine target).control).1 }).answer call
        (serveResult (topology.endpoint target) env rpc.request
          (before.engine target).control).2 := by
  simp only [System.step] at taken
  cases found : before.rpcs[call]? with
  | none => simp [found] at taken
  | some rpc =>
      cases reached : topology.resolve rpc.endpoint with
      | none => simp [found, reached] at taken
      | some target =>
          simp only [found, reached, Option.some.injEq] at taken
          exact ⟨rpc, target, rfl, reached, taken.symm.trans (stepHandle_eq rfl)⟩

/-- A step that handles a request keeps the RPC and adds the answer. -/
theorem step_handle_answer {call : Nat} {env : Environment}
    (taken : before.step topology (.handle call env) = some after) :
    ∃ rpc target later, before.rpcs[call]? = some rpc ∧
      topology.resolve rpc.endpoint = some target ∧
      after.rpcs[call]? = some later ∧ later.caller = rpc.caller ∧
      later.endpoint = rpc.endpoint ∧ later.request = rpc.request ∧
      later.answers = rpc.answers ++ [(serveResult (topology.endpoint target) env rpc.request
        (before.engine target).control).2] ∧
      (after.engine target).control = (serveResult (topology.endpoint target) env rpc.request
        (before.engine target).control).1 := by
  obtain ⟨rpc, target, found, reached, isAfter⟩ := step_handle taken
  refine ⟨rpc, target, { rpc with answers := rpc.answers ++ [(serveResult
    (topology.endpoint target) env rpc.request (before.engine target).control).2] }, found,
    reached, ?_, rfl, rfl, rfl, rfl, ?_⟩
  · rw [isAfter, System.answer_getElem?, if_pos rfl, System.setEngine_rpcs, found]
    rfl
  · rw [isAfter, System.answer_engine, System.setEngine_engine_self]

theorem Transition.acknowledged (transition : Transition topology before action after)
    (authentic : Authentic topology before) (fresh : before.FreshNames topology action)
    (taken : before.step topology action = some after) (noDisconnect : action.NoDisconnect)
    (noCloses : before.NoCloses) (acknowledged : before.Acknowledged topology) :
    after.Acknowledged topology := by
  intro rpc member reply answered target reached callerOpen targetOpen
  -- What an earlier answer tells stays true.
  have old : ∀ earlier ∈ before.rpcs, earlier.caller = rpc.caller →
      earlier.endpoint = rpc.endpoint → earlier.request = rpc.request →
      .ok reply ∈ earlier.answers →
      ∃ peer, (after.engine target).control.peers.get? rpc.request.connection.endpoint =
        some peer ∧ Acknowledges peer rpc.request reply := by
    intro earlier isEarlier sameCaller sameEndpoint sameRequest wasAnswered
    have wasOpen := transition.was_open authentic callerOpen
    obtain ⟨peer, held, acknowledges⟩ := acknowledged earlier isEarlier reply wasAnswered target
      (sameEndpoint ▸ reached) (sameCaller ▸ wasOpen) (transition.was_open authentic targetOpen)
    obtain ⟨later, isLater, succeeds⟩ :=
      transition.persists authentic noDisconnect noCloses targetOpen held
    rw [← sameRequest]
    exact ⟨later, isLater, acknowledges.succeeds succeeds
      (authentic.request_named isEarlier (sameCaller ▸ wasOpen))⟩
  by_cases isHandle : ∃ call env, action = .handle call env
  · obtain ⟨call, env, rfl⟩ := isHandle
    obtain ⟨handled, actor, found, reached', isAfter⟩ := step_handle taken
    have isHandled := List.mem_of_getElem? found
    obtain ⟨index, isRpc⟩ := List.mem_iff_getElem?.mp member
    rw [isAfter, System.answer_getElem?, System.setEngine_rpcs] at isRpc
    split at isRpc
    · rename_i here
      rw [here, found, Option.map_some, Option.some.injEq] at isRpc
      subst isRpc
      rcases List.mem_append.mp answered with earlier | now
      · exact old handled isHandled rfl rfl rfl earlier
      · obtain rfl : actor = target := by simpa [reached'] using reached
        have run : (serve (topology.endpoint actor) env handled.request).run
            (before.engine actor).control = .ok reply (after.engine actor).control := by
          rw [List.mem_singleton, serveResult] at now
          rw [isAfter, System.answer_engine, System.setEngine_engine_self, serveResult]
          split at now
          · rename_i isRun
            rw [isRun, Except.ok.inj now]
          · simp at now
        exact serve_acknowledges (authentic.consistent actor)
          (fresh handled found actor reached').control (noCloses handled isHandled) run
    · exact old rpc (List.mem_of_getElem? isRpc) rfl rfl rfl answered
  · cases transition with
    | ended => exact old rpc member rfl rfl rfl answered
    | registered => exact old rpc member rfl rfl rfl answered
    | closed => exact old rpc member rfl rfl rfl answered
    | sent =>
        rcases List.mem_append.mp member with isOld | isNew
        · exact old rpc isOld rfl rfl rfl answered
        · simp [List.mem_singleton.mp isNew] at answered
    | handled => exact absurd ⟨_, _, rfl⟩ isHandle

end Stepping

end Rdma101
