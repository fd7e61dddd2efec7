/-
Module: Rdma101.Control.HandlerSteps
Purpose: Handling a request is an act of the node that handles it, in its session with the node
  that sent it; no other session shows anything of it.
Trusted boundary: none
Main exports: stepHandle_eq, Served.act, stepHandle_steps
-/
import Rdma101.Control.OwnSteps

namespace Rdma101

open Wire ControlPlane Session

variable {Node : Type} {topology : Topology Node} {before after : System Node}
  {node other : Node} {env : Environment} {rules : Rules String Bytes}

/-- A handler leaves its control plane and records its result. -/
theorem stepHandle_eq [DecidableEq Node] {target : Node} {call : Nat} {request : Request}
    {control : ControlPlane} {result : Except PyError Reply}
    (served : serveResult (topology.endpoint target) env request (before.engine target).control =
      (control, result)) :
    before.stepHandle topology target call request env =
      (before.setEngine target { before.engine target with control := control }).answer call
        result := by
  unfold serveResult at served
  rw [System.stepHandle]
  split at served <;> simp_all

/-- What an operation says about the RPC it waits for. -/
theorem OperationOf.request {operation : Operation} {call : Nat} {rpc : Rpc Node}
    (authentic : OperationOf topology before node operation) (isCall : operation.call? = some call)
    (found : before.rpcs[call]? = some rpc) :
    rpc.request.connection.endpoint = topology.endpoint node ∧
      match operation with
      | .offering peer _ => rpc.request = .connect (offer (topology.endpoint node) peer)
      | .updating peer _ => ∃ snapshot, rpc.request =
          .ready { connection := connection (topology.endpoint node) peer, snapshot }
      | .registered _ => True
      | .notifying _ snapshot peer _ _ => rpc.request =
          .changed { connection := connection (topology.endpoint node) peer, snapshot }
      | .closing peer _ => rpc.request = .close (connection (topology.endpoint node) peer) := by
  cases operation with
  | registered => simp [Operation.call?] at isCall
  | offering peer number =>
      obtain rfl : number = call := by simpa [Operation.call?] using isCall
      obtain ⟨_, sent, isSent, _, _, isRequest⟩ := authentic
      obtain rfl : rpc = sent := by simpa [found] using isSent
      exact ⟨by rw [isRequest]; rfl, isRequest⟩
  | updating peer number =>
      obtain rfl : number = call := by simpa [Operation.call?] using isCall
      obtain ⟨_, ⟨snapshot, sent, isSent, _, _, isRequest⟩, _⟩ := authentic
      obtain rfl : rpc = sent := by simpa [found] using isSent
      exact ⟨by rw [isRequest]; rfl, snapshot, isRequest⟩
  | notifying metadata snapshot peer rest number =>
      obtain rfl : number = call := by simpa [Operation.call?] using isCall
      obtain ⟨_, _, sent, isSent, _, _, isRequest⟩ := authentic
      obtain rfl : rpc = sent := by simpa [found] using isSent
      exact ⟨by rw [isRequest]; rfl, isRequest⟩
  | closing peer number =>
      obtain rfl : number = call := by simpa [Operation.call?] using isCall
      obtain ⟨_, ⟨sent, isSent, _, _, isRequest⟩, _⟩ := authentic
      obtain rfl : rpc = sent := by simpa [found] using isSent
      exact ⟨by rw [isRequest]; rfl, isRequest⟩

/-- A handler rewrites at most the entry of the endpoint that the request names. -/
theorem Served.rewrites {advertised : String} {control after : ControlPlane} {request : Request}
    {result : Except PyError Reply} (served : Served advertised env control request after result) :
    ∃ entry made, Rewrites control after request.connection.endpoint entry made ∧
      ∀ peer ∈ made, peer.endpoint = request.connection.endpoint := by
  cases served with
  | connectNew absent rewrites => exact ⟨_, _, rewrites, by simp [freshPeer, Request.connection]⟩
  | connectHeld held joins rewrites => exact ⟨_, _, rewrites, by simp⟩
  | connectRefused => exact ⟨_, _, .refl control _, by simp⟩
  | ready held known rewrites => exact ⟨_, _, rewrites, by simp⟩
  | readyRefused => exact ⟨_, _, .refl control _, by simp⟩
  | changed held known rewrites => exact ⟨_, _, rewrites, by simp⟩
  | changedRefused => exact ⟨_, _, .refl control _, by simp⟩
  | closed held known rewrites => exact ⟨_, _, rewrites, by simp⟩
  | closeIgnored => exact ⟨_, _, .refl control _, by simp⟩

section

variable {advertised : String} {control after : ControlPlane} {near far : Side String Bytes}
  {result : Except PyError Reply}

/-- The handler of `Connect` takes or refuses an offer. -/
theorem Served.offer_act {request : Offer}
    (served : Served advertised env control (.connect request) after result)
    (isLink : near.link = control.linkTo request.connection.endpoint)
    (isMade : near.made = control.madeFor request.connection.endpoint)
    (offered : far.call = some (.offering request.connection.id .sent))
    (allowed : rules.accepts near far request.connection.id)
    (fresh : env.uuid4 ∉ near.made) (freshFar : env.uuid4 ∉ far.made) :
    Act rules near far
      { near with link := after.linkTo request.connection.endpoint
                  made := after.madeFor request.connection.endpoint }
      { far with call := some (.offering request.connection.id
                  (statusOf Reply.offeredId? [result])) } := by
  cases served with
  | connectNew absent rewrites =>
      refine (Act.acceptNew offered allowed (by simp [isLink, linkTo, absent]) fresh
        freshFar).of_eq ?_ ?_
      · simp [rewrites.linkTo, rewrites.madeFor_single, isMade, freshPeer, Peer.joinedTo,
          Peer.link]
      · rfl
  | @connectHeld _ peer _ held joins rewrites =>
      have heldLink : near.link = some peer.link := isLink.trans (linkTo_of_get? held)
      have linkAfter : after.linkTo request.connection.endpoint =
          some { peer.link with remote := some request.connection.id } := by
        rw [rewrites.linkTo, if_pos rfl, Option.map_some, Peer.link_joinedTo joins]
      rcases Peer.joins_iff.mp joins with unconnected | connected
      · refine (Act.acceptPending offered allowed heldLink unconnected).of_eq ?_ rfl
        rw [linkAfter, rewrites.madeFor, ← isMade]
      · refine (Act.acceptAgain offered allowed heldLink connected).of_eq ?_ rfl
        rw [linkAfter, rewrites.madeFor, ← isMade, ← connected, ← heldLink]
  | @connectRefused _ peer _ held elsewhere =>
      have heldLink : near.link = some peer.link := isLink.trans (linkTo_of_get? held)
      rw [Peer.joins_iff, not_or] at elsewhere
      obtain ⟨other, connected⟩ := Option.ne_none_iff_exists'.mp elsewhere.1
      refine (Act.refuseOffer offered allowed heldLink connected ?_).of_eq ?_ rfl
      · exact fun same => elsewhere.2 (same ▸ connected)
      · rw [← isLink, ← isMade]

/-- A connected entry, as a link. -/
theorem ControlPlane.WellFormed.link_remote (formed : control.WellFormed) {endpoint : String}
    {peer : Peer} (held : control.peers.get? endpoint = some peer)
    (named : peer.remoteConnectionId ≠ "") :
    peer.state ≠ .created ∧ peer.link.remote = some peer.remoteConnectionId := by
  have joined : peer.state ≠ .created :=
    fun unconnected => named ((formed.named held).mp unconnected)
  exact ⟨joined, by simp [Peer.link, joined]⟩

/-- No entry with the remote id, so no link that is connected to it. -/
theorem ControlPlane.not_linked {endpoint id : String}
    (unknown : ∀ peer, control.peers.get? endpoint = some peer → peer.remoteConnectionId ≠ id)
    {link : Link String} (held : control.linkTo endpoint = some link) : link.remote ≠ some id := by
  obtain ⟨peer, isPeer, rfl⟩ := get?_of_linkTo held
  by_cases unconnected : peer.state = .created
  · simp [Peer.link, unconnected]
  · simpa [Peer.link, unconnected] using unknown peer isPeer

/-- The handler of `Ready` takes or refuses an update. -/
theorem Served.update_act {request : Update}
    (served : Served advertised env control (.ready request) after result)
    (formed : control.WellFormed) (named : request.connection.id ≠ "")
    (isLink : near.link = control.linkTo request.connection.endpoint)
    (isMade : near.made = control.madeFor request.connection.endpoint)
    (isMemories : near.memories = control.memoryMetadata)
    (updated : far.call = some (.updating request.connection.id request.snapshot.version .sent)) :
    Act rules near far
      { near with link := after.linkTo request.connection.endpoint
                  made := after.madeFor request.connection.endpoint }
      { far with call := some (.updating request.connection.id request.snapshot.version
                  (statusOf Reply.version? [result])) } := by
  cases served with
  | @ready _ peer _ held known rewrites =>
      have heldLink : near.link = some peer.link := isLink.trans (linkTo_of_get? held)
      obtain ⟨joined, connected⟩ := formed.link_remote held (known ▸ named)
      apply (Act.acceptUpdate updated heldLink (known ▸ connected)).of_eq
      · rw [rewrites.linkTo, if_pos rfl, rewrites.madeFor, ← isMade, Option.map_some,
          Peer.link_ready (peer.imported request.snapshot.version) joined, Peer.link_imported]
      · simp [statusOf, Reply.version?, snapshot, rewrites.memories, isMemories]
  | readyRefused unknown =>
      refine (Act.refuseUpdate updated fun link held => ?_).of_eq ?_ rfl
      · exact not_linked unknown (isLink ▸ held)
      · rw [← isLink, ← isMade]

/-- The handler of `Changed` takes or refuses a notification. -/
theorem Served.notice_act {request : Update} {metadata : Bytes}
    (served : Served advertised env control (.changed request) after result)
    (formed : control.WellFormed) (named : request.connection.id ≠ "")
    (isLink : near.link = control.linkTo request.connection.endpoint)
    (isMade : near.made = control.madeFor request.connection.endpoint)
    (notified : far.call = some (.notifying metadata request.snapshot.version
      (.told request.connection.id .sent))) :
    Act rules near far
      { near with link := after.linkTo request.connection.endpoint
                  made := after.madeFor request.connection.endpoint }
      { far with call := some (.notifying metadata request.snapshot.version
                  (.told request.connection.id (statusOf Reply.empty? [result]))) } := by
  cases served with
  | @changed _ peer _ held known rewrites =>
      have heldLink : near.link = some peer.link := isLink.trans (linkTo_of_get? held)
      obtain ⟨_, connected⟩ := formed.link_remote held (known ▸ named)
      refine (Act.acceptNotice notified heldLink (known ▸ connected)).of_eq ?_ rfl
      rw [rewrites.linkTo, if_pos rfl, rewrites.madeFor, ← isMade, Option.map_some,
        Peer.link_imported]
  | changedRefused unknown =>
      refine (Act.refuseNotice notified fun link held => ?_).of_eq ?_ rfl
      · exact not_linked unknown (isLink ▸ held)
      · rw [← isLink, ← isMade]

/-- The handler of `Close` takes or ignores a request to close. -/
theorem Served.close_act {request : Connection}
    (served : Served advertised env control (.close request) after result)
    (formed : control.WellFormed) (named : request.id ≠ "")
    (isLink : near.link = control.linkTo request.endpoint)
    (isMade : near.made = control.madeFor request.endpoint)
    (closed : far.call = some (.closing request.id .sent)) :
    Act rules near far
      { near with link := after.linkTo request.endpoint, made := after.madeFor request.endpoint }
      { far with call := some (.closing request.id (statusOf Reply.empty? [result])) } := by
  cases served with
  | @closed _ peer _ held known rewrites =>
      have heldLink : near.link = some peer.link := isLink.trans (linkTo_of_get? held)
      obtain ⟨_, connected⟩ := formed.link_remote held (known ▸ named)
      refine (Act.acceptClose closed heldLink (known ▸ connected)).of_eq ?_ rfl
      rw [rewrites.linkTo, if_pos rfl, rewrites.madeFor, ← isMade, Option.map_none]
  | closeIgnored unknown =>
      refine (Act.ignoreClose closed fun link held => ?_).of_eq ?_ rfl
      · exact not_linked unknown (isLink ▸ held)
      · rw [← isLink, ← isMade]

end

/-! ### The sessions that a handled request concerns

A handler rewrites at most the entry of one endpoint, so it acts in the session of its two
nodes.  Every other session sees neither the entry nor the answer, and stutters. -/

section

variable {call : Nat} {rpc : Rpc Node} {target : Node}

/-- A request goes from one node to the node of another endpoint. -/
theorem Authentic.addressed (authentic : Authentic topology before)
    (made : MadeForNodes topology before) (found : before.rpcs[call]? = some rpc)
    (reached : topology.resolve rpc.endpoint = some target) :
    target ≠ rpc.caller ∧ rpc.endpoint = topology.endpoint target := by
  obtain ⟨origin, member, isEndpoint, _⟩ := authentic.requests rpc (List.mem_of_getElem? found)
  obtain ⟨dialed, different, isDialed⟩ := made rpc.caller origin member
  rw [isDialed] at isEndpoint
  rw [← isEndpoint, topology.resolve_endpoint, Option.some.injEq] at reached
  exact ⟨reached ▸ different, by rw [← isEndpoint, reached]⟩

/-- Answers to a request matter only to its caller, towards the node it went to. -/
theorem Authentic.sideTo_answered (authentic : Authentic topology before)
    (found : before.rpcs[call]? = some rpc) {later : List (Rpc Node)}
    (others : ∀ index, index ≠ call → later[index]? = before.rpcs[index]?) {one : Node}
    {endpoint : String} (unconcerned : one ≠ rpc.caller ∨ endpoint ≠ rpc.endpoint) :
    (before.engine one).sideTo later endpoint =
      (before.engine one).sideTo before.rpcs endpoint := by
  refine Engine.sideTo_congr fun operation index isOperation isCall isTarget => others index ?_
  rintro rfl
  obtain ⟨sent, isSent, isCaller, goesTo⟩ :=
    (authentic.operations one operation isOperation).sent isCall
  obtain rfl : rpc = sent := by simpa [found] using isSent
  rcases unconcerned with elsewhere | elsewhere
  · exact elsewhere isCaller.symm
  · rw [isTarget, Option.some.injEq] at goesTo
    exact elsewhere goesTo

/-- The ids of the connections of requests are not empty. -/
theorem Authentic.named (authentic : Authentic topology before) (waiting : before.Waiting)
    (found : before.rpcs[call]? = some rpc) : rpc.request.connection.id ≠ "" ∧
      rpc.request.connection.endpoint = topology.endpoint rpc.caller := by
  obtain ⟨origin, member, _, about⟩ := authentic.requests rpc (List.mem_of_getElem? found)
  have nonempty := ((authentic.consistent rpc.caller).opened (waiting.opened rpc.caller)).idNonempty
    origin member
  cases isRequest : rpc.request with
  | connect request =>
      rw [isRequest] at about
      simpa [Request.connection, about, offer, connection] using nonempty
  | ready request =>
      rw [isRequest] at about
      simpa [Request.connection, about.1, connection] using nonempty
  | changed request =>
      rw [isRequest] at about
      simpa [Request.connection, about.1, connection] using nonempty
  | close request =>
      rw [isRequest] at about
      simpa [Request.connection, about.1, connection] using nonempty

/-- What the network and the disciplines grant when an offer is handled. -/
def AcceptsAt (rules : Rules String Bytes) (topology : Topology Node) (system : System Node)
    (node other : Node) : Prop :=
  ∀ theirs, ((system.engine other).sideTo system.rpcs (topology.endpoint node)).call =
      some (.offering theirs .sent) →
    rules.accepts ((system.engine node).sideTo system.rpcs (topology.endpoint other))
      ((system.engine other).sideTo system.rpcs (topology.endpoint node)) theirs

/-- The act of the node that handles a request, in its session with the caller. -/
theorem Served.act {control : ControlPlane} {result : Except PyError Reply}
    (authentic : Authentic topology before) (waiting : before.Waiting)
    (made : MadeForNodes topology before) (fresh : before.FreshFor target env)
    (found : before.rpcs[call]? = some rpc) (unanswered : rpc.answers = [])
    (reached : topology.resolve rpc.endpoint = some target)
    (served : Served (topology.endpoint target) env (before.engine target).control rpc.request
      control result)
    (allowed : AcceptsAt rules topology before target rpc.caller) {later : List (Rpc Node)}
    (answered : later[call]? = some { rpc with answers := [result] }) :
    Act rules ((before.engine target).sideTo before.rpcs (topology.endpoint rpc.caller))
      ((before.engine rpc.caller).sideTo before.rpcs (topology.endpoint target))
      { (before.engine target).sideTo before.rpcs (topology.endpoint rpc.caller) with
        link := control.linkTo (topology.endpoint rpc.caller)
        made := control.madeFor (topology.endpoint rpc.caller) }
      ((before.engine rpc.caller).sideTo later (topology.endpoint target)) := by
  obtain ⟨operation, running, isCall⟩ := waiting.waits call rpc found unanswered
  obtain ⟨_, isEndpoint⟩ := authentic.addressed made found reached
  obtain ⟨named, callerEndpoint⟩ := authentic.named waiting found
  have isAuthentic := authentic.operations rpc.caller operation running
  obtain ⟨_, isSent, _, isTarget⟩ := isAuthentic.sent isCall
  obtain rfl : rpc = _ := by simpa [found] using isSent
  have isRequest := (isAuthentic.request isCall found).2
  have formed := (authentic.consistent target).opened (waiting.opened target)
  have sideBefore := fun endpoint => Engine.sideTo_running running before.rpcs endpoint
  have sideAfter := fun endpoint => Engine.sideTo_running running later endpoint
  have answersBefore : answersOf before.rpcs call = [] := by simp [answersOf, found, unanswered]
  have answersAfter : answersOf later call = [result] := by simp [answersOf, answered]
  have versionBefore : sentVersion before.rpcs call = rpc.request.version := by
    simp [sentVersion, found]
  have versionAfter : sentVersion later call = rpc.request.version := by
    simp [sentVersion, answered]
  cases operation with
  | registered => simp [Operation.call?] at isCall
  | offering peer number =>
      obtain rfl : number = call := by simpa [Operation.call?] using isCall
      have here : peer.endpoint = topology.endpoint target := by
        simpa [Operation.target?, isEndpoint] using isTarget
      simp only [isRequest] at served
      have calling : ((before.engine rpc.caller).sideTo before.rpcs
          (topology.endpoint target)).call = some (.offering peer.connectionId .sent) := by
        simp [sideBefore, Operation.callTo, here, answersBefore, statusOf]
      refine (served.offer_act rfl rfl calling (allowed _ calling) (fresh.unmade target _)
        (fresh.unmade rpc.caller _)).of_eq rfl ?_
      simp [sideBefore, sideAfter, Operation.callTo, here, answersAfter, offer, connection]
  | updating peer number =>
      obtain rfl : number = call := by simpa [Operation.call?] using isCall
      have here : peer.endpoint = topology.endpoint target := by
        simpa [Operation.target?, isEndpoint] using isTarget
      obtain ⟨snapshot, isRequest⟩ := isRequest
      simp only [isRequest, Request.version] at versionBefore versionAfter
      simp only [isRequest, Request.connection] at served named
      have calling : ((before.engine rpc.caller).sideTo before.rpcs
          (topology.endpoint target)).call =
            some (.updating peer.connectionId snapshot.version .sent) := by
        simp [sideBefore, Operation.callTo, here, answersBefore, statusOf, versionBefore]
      apply (served.update_act formed named rfl rfl rfl calling).of_eq rfl
      simp [sideBefore, sideAfter, Operation.callTo, here, answersAfter, versionAfter, connection]
  | notifying metadata snapshot peer rest number =>
      obtain rfl : number = call := by simpa [Operation.call?] using isCall
      have here : peer.endpoint = topology.endpoint target := by
        simpa [Operation.target?, isEndpoint] using isTarget
      simp only [isRequest, Request.connection] at served named
      have calling : ((before.engine rpc.caller).sideTo before.rpcs
          (topology.endpoint target)).call =
            some (.notifying metadata snapshot.version (.told peer.connectionId .sent)) := by
        simp [sideBefore, Operation.callTo, here, answersBefore, statusOf]
      apply (served.notice_act formed named rfl rfl calling).of_eq rfl
      simp [sideBefore, sideAfter, Operation.callTo, here, answersAfter, connection]
  | closing peer number =>
      obtain rfl : number = call := by simpa [Operation.call?] using isCall
      have here : peer.endpoint = topology.endpoint target := by
        simpa [Operation.target?, isEndpoint] using isTarget
      simp only [isRequest, Request.connection] at served named
      have calling : ((before.engine rpc.caller).sideTo before.rpcs
          (topology.endpoint target)).call = some (.closing peer.connectionId .sent) := by
        simp [sideBefore, Operation.callTo, here, answersBefore, statusOf]
      apply (served.close_act formed named rfl rfl calling).of_eq rfl
      simp [sideBefore, sideAfter, Operation.callTo, here, answersAfter, connection]

variable [DecidableEq Node]

/-- The side of the node that handled a request. -/
theorem Served.target_side {control : ControlPlane} {result : Except PyError Reply}
    (authentic : Authentic topology before) (found : before.rpcs[call]? = some rpc)
    (different : target ≠ rpc.caller)
    (served : Served (topology.endpoint target) env (before.engine target).control rpc.request
      control result) {after : System Node}
    (isAfter : after = (before.setEngine target
      { before.engine target with control := control }).answer call result) (endpoint : String) :
    (after.engine target).sideTo after.rpcs endpoint =
      { (before.engine target).sideTo before.rpcs endpoint with
        link := control.linkTo endpoint, made := control.madeFor endpoint } := by
  obtain ⟨_, _, rewrites, _⟩ := served.rewrites
  have others : ∀ index, index ≠ call → after.rpcs[index]? = before.rpcs[index]? :=
    fun index elsewhere => by simp [isAfter, System.answer_getElem?, elsewhere]
  rw [← authentic.sideTo_answered found others (.inl different)]
  simp [isAfter, Engine.sideTo, rewrites.memories]

/-- The side of another node, which sees at most the answer to its request. -/
theorem Authentic.other_side {control : ControlPlane} {result : Except PyError Reply}
    (authentic : Authentic topology before) (found : before.rpcs[call]? = some rpc)
    {one : Node} (elsewhere : one ≠ target) {after : System Node}
    (isAfter : after = (before.setEngine target
      { before.engine target with control := control }).answer call result) {endpoint : String}
    (unconcerned : one ≠ rpc.caller ∨ endpoint ≠ rpc.endpoint) :
    (after.engine one).sideTo after.rpcs endpoint =
      (before.engine one).sideTo before.rpcs endpoint := by
  have others : ∀ index, index ≠ call → after.rpcs[index]? = before.rpcs[index]? :=
    fun index elsewhere => by simp [isAfter, System.answer_getElem?, elsewhere]
  rw [← authentic.sideTo_answered found others unconcerned]
  simp [isAfter, System.setEngine_engine, elsewhere]

/-- The session of the node that handles a request with any other node. -/
theorem Served.target_steps {control : ControlPlane} {result : Except PyError Reply}
    (authentic : Authentic topology before) (waiting : before.Waiting)
    (made : MadeForNodes topology before) (fresh : before.FreshFor target env)
    (found : before.rpcs[call]? = some rpc) (unanswered : rpc.answers = [])
    (reached : topology.resolve rpc.endpoint = some target)
    (served : Served (topology.endpoint target) env (before.engine target).control rpc.request
      control result)
    (allowed : rpc.caller = other → AcceptsAt rules topology before target other)
    (isAfter : after = (before.setEngine target
      { before.engine target with control := control }).answer call result)
    (different : target ≠ other) :
    Steps rules (before.view topology target other) (after.view topology target other) := by
  obtain ⟨notCaller, isEndpoint⟩ := authentic.addressed made found reached
  rw [System.view, System.view, served.target_side authentic found notCaller isAfter]
  by_cases here : rpc.caller = other
  · subst here
    have answered : after.rpcs[call]? = some { rpc with answers := [result] } := by
      simp [isAfter, System.answer_getElem?, found, unanswered]
    have act := served.act authentic waiting made fresh found unanswered reached (allowed rfl)
      answered
    have sameEngine : after.engine rpc.caller = before.engine rpc.caller := by
      simp [isAfter, System.setEngine_engine, notCaller.symm]
    rw [sameEngine]
    exact .single (.near act)
  · obtain ⟨_, _, rewrites, madeHere⟩ := served.rewrites
    have elsewhere : topology.endpoint other ≠ rpc.request.connection.endpoint := by
      rw [(authentic.named waiting found).2]
      exact fun same => here (topology.endpoint_injective same).symm
    rw [authentic.other_side found different.symm isAfter (.inl (Ne.symm here)),
      rewrites.linkTo, if_neg elsewhere, rewrites.madeFor_other madeHere elsewhere]
    exact .refl

/-- What handling a request amounts to. -/
theorem stepHandle_served (authentic : Authentic topology before) (waiting : before.Waiting)
    (made : MadeForNodes topology before) (succeeds : env.Succeeds)
    (fresh : before.FreshFor target env) (found : before.rpcs[call]? = some rpc)
    (reached : topology.resolve rpc.endpoint = some target) :
    ∃ control result,
      Served (topology.endpoint target) env (before.engine target).control rpc.request control
        result ∧
      before.stepHandle topology target call rpc.request env =
        (before.setEngine target { before.engine target with control := control }).answer call
          result := by
  obtain ⟨notCaller, _⟩ := authentic.addressed made found reached
  obtain ⟨named, isOrigin⟩ := authentic.named waiting found
  have remote : ¬(rpc.request.connection.endpoint = "" ∨
      rpc.request.connection.endpoint = topology.endpoint target) := by
    rw [isOrigin]
    rintro (empty | same)
    · exact topology.endpoint_ne_empty rpc.caller empty
    · exact notCaller (topology.endpoint_injective same).symm
  obtain ⟨control, result, computed, served⟩ := serve_smooth succeeds (waiting.opened target)
    (authentic.consistent target) fresh.control named remote
  exact ⟨control, result, served, stepHandle_eq computed⟩

/-- Handling a request is an act in the session of its two nodes, and nothing in any other. -/
theorem stepHandle_steps (authentic : Authentic topology before) (waiting : before.Waiting)
    (made : MadeForNodes topology before) (succeeds : env.Succeeds)
    (fresh : before.FreshFor target env) (found : before.rpcs[call]? = some rpc)
    (unanswered : rpc.answers = []) (reached : topology.resolve rpc.endpoint = some target)
    (different : node ≠ other)
    (allowed : target = node → rpc.caller = other → AcceptsAt rules topology before node other)
    (allowedOther : target = other → rpc.caller = node →
      AcceptsAt rules topology before other node) :
    Steps rules (before.view topology node other)
      ((before.stepHandle topology target call rpc.request env).view topology node other) := by
  obtain ⟨_, isEndpoint⟩ := authentic.addressed made found reached
  obtain ⟨control, result, served, isAfter⟩ := stepHandle_served authentic waiting made succeeds
    fresh found reached
  by_cases here : target = node
  · subst here
    exact served.target_steps authentic waiting made fresh found unanswered reached (allowed rfl)
      isAfter different
  by_cases there : target = other
  · subst there
    exact (served.target_steps authentic waiting made fresh found unanswered reached
      (allowedOther rfl) isAfter (Ne.symm different)).swap
  · have elsewhere : ∀ one, one ≠ target → topology.endpoint one ≠ rpc.endpoint := by
      rw [isEndpoint]
      exact fun one distinct same => distinct (topology.endpoint_injective same)
    rw [System.view, System.view,
      authentic.other_side found (Ne.symm here) isAfter (.inr (elsewhere other (Ne.symm there))),
      authentic.other_side found (Ne.symm there) isAfter (.inr (elsewhere node (Ne.symm here)))]

end

end Rdma101
