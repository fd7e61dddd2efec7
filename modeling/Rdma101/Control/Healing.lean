/-
Module: Rdma101.Control.Healing
Purpose: One connect that runs alone, from any state that an unreliable network and any
  disconnects left behind: when it returns, and that it then joins both ends completely.
Trusted boundary: none
Main exports: System.Completes, System.Compatible, System.Joined, connect_alone_completes,
  compatible_of_reachable, connect_heals
-/
import Rdma101.Control.RejectedName

namespace Rdma101

open Wire ControlPlane ControlServicer

variable {Node : Type} [DecidableEq Node]

/-! ### One operation that runs alone

The runs of one operation without interference, as a tree of rounds: whatever a handler ends
with and whatever is answered, the operation has a next step until it ends.  A goal that holds
at all ends is thus also a proof that the operation terminates. -/

/-- The operation of one node runs alone: each of its RPCs is handled once and answered.  Whatever
the environments of the steps answer, it never sticks, and it ends in a state of the goal. -/
inductive System.Completes (topology : Topology Node) (allowed : System Node → Action Node → Prop)
    (node : Node) (goal : System Node → Prop) : System Node → Prop where
  | ended {system : System Node} (idle : (system.engine node).operation = none)
      (holds : goal system) : Completes topology allowed node goal system
  | round {system : System Node} {call : Nat}
      (waits : (system.engine node).operation.bind Operation.call? = some call)
      (handles : ∀ env, allowed system (.handle call env) →
        ∃ handled, system.step topology (.handle call env) = some handled)
      (resumes : ∀ env handled resuming, allowed system (.handle call env) →
        system.step topology (.handle call env) = some handled →
        allowed handled (.resume node 0 resuming) →
        ∃ resumed, handled.step topology (.resume node 0 resuming) = some resumed)
      (rest : ∀ env handled resuming resumed, allowed system (.handle call env) →
        system.step topology (.handle call env) = some handled →
        allowed handled (.resume node 0 resuming) →
        handled.step topology (.resume node 0 resuming) = some resumed →
        Completes topology allowed node goal resumed) :
      Completes topology allowed node goal system

variable {topology : Topology Node} {system : System Node} {node other : Node}

section Alone

variable {allowed : System Node → Action Node → Prop} {goal : System Node → Prop}

/-- Every run of the operation alone ends in the goal. -/
theorem System.Completes.final {final : System Node}
    (completes : System.Completes topology allowed node goal system)
    (alone : System.RunsAlone topology allowed node system final) : goal final := by
  induction completes with
  | ended idle holds => exact alone.of_idle idle ▸ holds
  | @round system call waits handles resumes rest inductionHypothesis =>
      cases alone with
      | ended idle => simp [idle] at waits
      | @round _ handled resumed _ other env resuming waitsToo handling obeys resumption obeysToo
          later =>
          obtain rfl : call = other := Option.some.inj (waits.symm.trans waitsToo)
          exact inductionHypothesis env handled resuming resumed obeys handling obeysToo
            resumption later

/-- A weaker goal is reached, too. -/
theorem System.Completes.mono {weaker : System Node → Prop}
    (completes : System.Completes topology allowed node goal system)
    (implies : ∀ final, goal final → weaker final) :
    System.Completes topology allowed node weaker system := by
  induction completes with
  | ended idle holds => exact .ended idle (implies _ holds)
  | round waits handles resumes _ inductionHypothesis =>
      exact .round waits handles resumes inductionHypothesis

/-- The final states are reached, too. -/
theorem System.Completes.reachable {looser : System Node → Action Node → Prop}
    (completes : System.Completes topology allowed node goal system)
    (weaker : ∀ state action, allowed state action → looser state action)
    (reached : (controlSystem topology).Reachable looser system) :
    System.Completes topology allowed node
      (fun final => (controlSystem topology).Reachable looser final ∧ goal final) system := by
  induction completes with
  | ended idle holds => exact .ended idle ⟨reached, holds⟩
  | round waits handles resumes _ inductionHypothesis =>
      refine .round waits handles resumes fun env handled resuming resumed obeys handling obeysToo
        resumption => ?_
      exact inductionHypothesis env handled resuming resumed obeys handling obeysToo resumption
        (.step (.step reached (weaker _ _ obeys) handling) (weaker _ _ obeysToo) resumption)

end Alone

/-- The system after the handler of an RPC ran at its target, from what it ended with. -/
def System.handled (system : System Node) (target : Node) (call : Nat) (control : ControlPlane)
    (result : Except PyError Reply) : System Node :=
  (system.setEngine target { system.engine target with control := control }).answer call result

/-- What a waiting operation does with the result of its RPC. -/
def System.resumed? (topology : Topology Node) (system : System Node) (node : Node)
    (operation : Operation) (result : Except PyError Reply) (env : Environment) :
    Option (System Node) :=
  match result with
  | .error _ => some (system.raiseRpcError node operation)
  | .ok reply => system.stepResume topology node operation reply env

section Rounds

variable {operation : Operation} {call : Nat} {rpc : Rpc Node} {env resuming : Environment}
  {control : ControlPlane} {result : Except PyError Reply}

theorem System.step_handle_eq (found : system.rpcs[call]? = some rpc)
    (reaches : topology.resolve rpc.endpoint = some other)
    (served : serveResult (topology.endpoint other) env rpc.request
      (system.engine other).control = (control, result)) :
    system.step topology (.handle call env) = some (system.handled other call control result) := by
  simp only [System.step, found, reaches, stepHandle_eq served, System.handled]

theorem System.step_resume_eq (running : (system.engine node).operation = some operation)
    (isCall : operation.call? = some call) (found : system.rpcs[call]? = some rpc)
    (answered : rpc.answers[0]? = some result) :
    system.step topology (.resume node 0 env) =
      system.resumed? topology node operation result env := by
  simp only [System.step, running, isCall, Option.bind_some, found, answered]
  cases result <;> rfl

@[simp] theorem System.handled_engine_node (apart : other ≠ node) :
    (system.handled other call control result).engine node = system.engine node := by
  simp [System.handled, System.setEngine_engine, apart.symm]

@[simp] theorem System.handled_engine_target :
    (system.handled other call control result).engine other =
      { system.engine other with control := control } := by
  simp [System.handled]

theorem System.handled_found (found : system.rpcs[call]? = some rpc) :
    (system.handled other call control result).rpcs[call]? =
      some { rpc with answers := rpc.answers ++ [result] } := by
  simp [System.handled, System.answer_getElem?, found]

/-- A round: the handler of the RPC that the operation waits for runs, and the operation takes
what it returned or raised. -/
theorem System.Completes.of_round {goal : System Node → Prop} (apart : other ≠ node)
    (reached : (controlSystem topology).Reachable (System.FreshNames topology) system)
    (running : (system.engine node).operation = some operation)
    (isCall : operation.call? = some call) (found : system.rpcs[call]? = some rpc)
    (unanswered : rpc.answers = []) (reaches : topology.resolve rpc.endpoint = some other)
    (goesOn : ∀ env resuming control result, system.FreshFor other env → env.Succeeds →
      resuming.Succeeds →
      serveResult (topology.endpoint other) env rpc.request (system.engine other).control =
        (control, result) →
      ∃ resumed, (system.handled other call control result).resumed? topology node operation
          result resuming = some resumed ∧
        ((controlSystem topology).Reachable (System.FreshNames topology) resumed →
          System.Completes topology (System.Unfailing topology) node goal resumed)) :
    System.Completes topology (System.Unfailing topology) node goal system := by
  have handles : ∀ env, ∃ control result,
      serveResult (topology.endpoint other) env rpc.request (system.engine other).control =
        (control, result) ∧
      system.step topology (.handle call env) =
        some (system.handled other call control result) :=
    fun env => ⟨_, _, rfl, System.step_handle_eq found reaches rfl⟩
  have resumes : ∀ control result resuming,
      (system.handled other call control result).step topology (.resume node 0 resuming) =
        (system.handled other call control result).resumed? topology node operation result
          resuming := by
    intro control result resuming
    exact System.step_resume_eq (by rw [System.handled_engine_node apart, running]) isCall
      (System.handled_found found) (by simp [unanswered])
  have steps : ∀ env handled resuming, system.Unfailing topology (.handle call env) →
      system.step topology (.handle call env) = some handled →
      handled.Unfailing topology (.resume node 0 resuming) →
      ∃ resumed, handled.step topology (.resume node 0 resuming) = some resumed ∧
        System.Completes topology (System.Unfailing topology) node goal resumed := by
    intro env handled resuming obeys taken obeysToo
    obtain ⟨control, result, served, isHandled⟩ := handles env
    obtain rfl := Option.some.inj (isHandled.symm.trans taken)
    obtain ⟨resumed, isResumed, completes⟩ := goesOn env resuming control result
      (obeys.1 rpc (by simp [found]) other (by simp [reaches])) obeys.2 obeysToo.2 served
    have taken' := (resumes control result resuming).trans isResumed
    exact ⟨resumed, taken', completes (.step (.step reached obeys.1 taken) obeysToo.1 taken')⟩
  have waits : (system.engine node).operation.bind Operation.call? = some call := by
    simp [running, isCall]
  refine .round waits (fun env _ => ?_) ?_ ?_
  · obtain ⟨_, _, _, taken⟩ := handles env
    exact ⟨_, taken⟩
  · intro env handled resuming obeys taken obeysToo
    obtain ⟨resumed, isResumed, _⟩ := steps env handled resuming obeys taken obeysToo
    exact ⟨resumed, isResumed⟩
  · intro env handled resuming resumed obeys taken obeysToo isResumed
    obtain ⟨_, isResumed', completes⟩ := steps env handled resuming obeys taken obeysToo
    exact Option.some.inj (isResumed'.symm.trans isResumed) ▸ completes

end Rounds

/-! ### What the two ends hold

A connect can join two ends exactly when neither is connected to a peer that the other has given
up.  The rest of the section is about what the other nodes and the lists of registrations keep
meanwhile. -/

/-- The entry of one node for another is unconnected, or connected to the entry that the other
node now holds for it. -/
def System.Points (topology : Topology Node) (system : System Node) (node other : Node) : Prop :=
  ∀ own, (system.engine node).control.peers.get? (topology.endpoint other) = some own →
    own.state = .created ∨
      ∃ theirs, (system.engine other).control.peers.get? (topology.endpoint node) =
        some theirs ∧ own.remoteConnectionId = theirs.connectionId

/-- Neither node is connected to a peer that the other has given up. -/
def System.Compatible (topology : Topology Node) (system : System Node) (node other : Node) :
    Prop :=
  system.Points topology node other ∧ system.Points topology other node

/-- Both ends hold a ready peer that is connected to the other, and each has imported what the
other has published. -/
structure System.Joined (topology : Topology Node) (system : System Node) (node other : Node)
    (own theirs : Peer) : Prop where
  held : (system.engine node).control.peers.get? (topology.endpoint other) = some own
  heldThere : (system.engine other).control.peers.get? (topology.endpoint node) = some theirs
  ready : own.state = .ready
  readyThere : theirs.state = .ready
  connected : own.remoteConnectionId = theirs.connectionId
  connectedThere : theirs.remoteConnectionId = own.connectionId
  imports : ∀ metadata, (own.handle, metadata) ∈ (system.engine node).control.native.imports ↔
    metadata ∈ (system.engine other).control.memoryMetadata
  importsThere : ∀ metadata,
    (theirs.handle, metadata) ∈ (system.engine other).control.native.imports ↔
      metadata ∈ (system.engine node).control.memoryMetadata

/-- Between the two states only the two nodes moved, and nobody published. -/
structure System.Between (before after : System Node) (node other : Node) : Prop where
  others : ∀ one, one ≠ node → one ≠ other → after.engine one = before.engine one
  operation : (after.engine other).operation = (before.engine other).operation
  outcomes : (after.engine other).outcomes = (before.engine other).outcomes
  memories : ∀ one,
    (after.engine one).control.memoryMetadata = (before.engine one).control.memoryMetadata

omit [DecidableEq Node] in
theorem System.Between.trans {first second third : System Node}
    (left : first.Between second node other) (right : second.Between third node other) :
    first.Between third node other where
  others := fun one here there => (right.others one here there).trans (left.others one here there)
  operation := right.operation.trans left.operation
  outcomes := right.outcomes.trans left.outcomes
  memories := fun one => (right.memories one).trans (left.memories one)

/-- A peer that has imported the newest snapshot has imported everything. -/
theorem imports_whole {own : Peer}
    (reached : (controlSystem topology).Reachable (System.FreshNames topology) system)
    (held : (system.engine node).control.peers.get? (topology.endpoint other) = some own)
    (openThere : (system.engine other).control.closed = false)
    (newest : ((system.engine other).control.memoryMetadata.length : Int) ≤ own.remoteVersion)
    (metadata : Bytes) :
    (own.handle, metadata) ∈ (system.engine node).control.native.imports ↔
      metadata ∈ (system.engine other).control.memoryMetadata := by
  have authentic := authentic_of_reachable (fun _ _ obeys => obeys) reached
  have keyed := ((authentic.consistent node).formed held).keyed held
  obtain ⟨count, imported⟩ := (importsPrefixes_of_reachable (fun _ _ obeys => obeys) reached
    node).prefixes _ own held _ ⟨other, keyed.symm, openThere, rfl⟩
  have within := imported.within
  have version := imported.version
  have whole : count = (system.engine other).control.memoryMetadata.length := by omega
  rw [imported.imports, whole, List.take_length]

/-- A peer that joins the id is connected to it afterwards. -/
theorem Peer.Joins.remote {peer : Peer} {id : String} (joins : peer.Joins id) :
    (peer.joinedTo id).remoteConnectionId = id := by
  unfold Peer.joinedTo
  split
  · rfl
  · rename_i connected
    exact joins.resolve_left connected

theorem Peer.sameObject_joinedTo (peer : Peer) (id : String) :
    (peer.joinedTo id).SameObject peer := by
  unfold joinedTo
  split <;> exact ⟨rfl, rfl, rfl, rfl⟩

theorem Peer.joinedTo_connected (peer : Peer) (id : String) :
    (peer.joinedTo id).state ≠ .created := by
  unfold joinedTo
  split
  · simp
  · rename_i connected
    exact connected

/-! ### The rounds of a connect

The rounds are proved from the last one backwards: what the round of `Ready` needs is what the
round of `Connect` has to bring about, and that again is what the dial finds. -/

/-- The connect that ran alone has joined both ends. -/
def System.Heals (topology : Topology Node) (before : System Node) (node other : Node)
    (final : System Node) : Prop :=
  before.Between final node other ∧ ∃ own theirs, final.Joined topology node other own theirs ∧
    (final.engine node).outcomes = (before.engine node).outcomes ++
      [.connect (topology.endpoint other) (.ok own.handle)]

omit [DecidableEq Node] in
/-- Steps before the ones that joined both ends. -/
theorem System.Heals.of_between {before middle final : System Node}
    (between : before.Between middle node other)
    (outcomes : (middle.engine node).outcomes = (before.engine node).outcomes)
    (heals : middle.Heals topology node other final) : before.Heals topology node other final := by
  obtain ⟨later, own, theirs, joined, ended⟩ := heals
  exact ⟨between.trans later, own, theirs, joined, outcomes ▸ ended⟩

omit [DecidableEq Node] in
/-- The name of another node is a remote one. -/
theorem Topology.remote (topology : Topology Node) (apart : other ≠ node) :
    ¬(topology.endpoint other = "" ∨ topology.endpoint other = topology.endpoint node) := by
  rintro (empty | same)
  · exact topology.endpoint_ne_empty other empty
  · exact apart (topology.endpoint_injective same)

/-- The last steps at both ends, once each has imported the newest snapshot of the other. -/
theorem heals_of_imports {final : System Node} {own theirs : Peer}
    {control control' : ControlPlane}
    (reached : (controlSystem topology).Reachable (System.FreshNames topology) final)
    (here : final.engine node = (system.engine node).finish control
      (.connect (topology.endpoint other) (.ok own.handle)))
    (there : final.engine other = { system.engine other with control := control' })
    (others : ∀ one, one ≠ node → one ≠ other → final.engine one = system.engine one)
    (rewrites : Rewrites (system.engine node).control control (topology.endpoint other)
      (some { own.imported (system.engine other).control.memoryMetadata.length with
        state := .ready }) [])
    (rewritesThere : Rewrites (system.engine other).control control' (topology.endpoint node)
      (some { theirs.imported (system.engine node).control.memoryMetadata.length with
        state := .ready }) [])
    (connected : own.remoteConnectionId = theirs.connectionId)
    (connectedThere : theirs.remoteConnectionId = own.connectionId) :
    system.Heals topology node other final := by
  have authentic := authentic_of_reachable (fun _ _ obeys => obeys) reached
  have memories : ∀ one, (final.engine one).control.memoryMetadata =
      (system.engine one).control.memoryMetadata := by
    intro one
    by_cases isNode : one = node
    · rw [isNode, here]
      exact rewrites.memories
    · by_cases isOther : one = other
      · rw [isOther, there]
        exact rewritesThere.memories
      · rw [others one isNode isOther]
  have held : (final.engine node).control.peers.get? (topology.endpoint other) = some
      { own.imported (system.engine other).control.memoryMetadata.length with
        state := .ready } := by
    rw [here, Engine.finish, rewrites.peers, if_pos rfl]
  have heldThere : (final.engine other).control.peers.get? (topology.endpoint node) = some
      { theirs.imported (system.engine node).control.memoryMetadata.length with
        state := .ready } := by
    rw [there, rewritesThere.peers, if_pos rfl]
  refine ⟨⟨others, by rw [there], by rw [there], memories⟩, _, _,
    ⟨held, heldThere, rfl, rfl, connected, connectedThere, ?_, ?_⟩, by rw [here]; rfl⟩
  · apply imports_whole reached held ((authentic.consistent other).open_of_held heldThere)
    rw [memories]
    exact Int.le_max_right _ _
  · apply imports_whole reached heldThere ((authentic.consistent node).open_of_held held)
    rw [memories]
    exact Int.le_max_right _ _

/-- The second round: the other node imports and marks its peer ready, then this one does. -/
theorem updating_completes {peer own theirs : Peer} {call : Nat} {update : Update}
    (apart : other ≠ node)
    (reached : (controlSystem topology).Reachable (System.FreshNames topology) system)
    (running : (system.engine node).operation = some (.updating peer call))
    (sent : system.rpcs[call]? = some
      { caller := node, endpoint := topology.endpoint other, request := .ready update })
    (isConnection : update.connection = connection (topology.endpoint node) peer)
    (isSnapshot : update.snapshot = (system.engine node).control.snapshot)
    (held : (system.engine node).control.peers.get? (topology.endpoint other) = some own)
    (heldThere : (system.engine other).control.peers.get? (topology.endpoint node) =
      some theirs)
    (isPeer : own.SameObject peer) (joined : own.state ≠ .created)
    (connected : own.remoteConnectionId = theirs.connectionId)
    (connectedThere : theirs.remoteConnectionId = own.connectionId) :
    System.Completes topology (System.Unfailing topology) node
      (system.Heals topology node other) system := by
  have authentic := authentic_of_reachable (fun _ _ obeys => obeys) reached
  have consistent := authentic.consistent node
  have isOpen := consistent.open_of_held held
  have openThere := (authentic.consistent other).open_of_held heldThere
  have keyed := (consistent.formed held).keyed held
  have isEndpoint : update.connection.endpoint = topology.endpoint node := by
    rw [isConnection, connection]
  have isId : update.connection.id = own.connectionId := by
    rw [isConnection, connection, isPeer.connectionId]
  have named : update.connection.id ≠ "" := by
    obtain ⟨origin, made, isOwn⟩ := consistent.made held
    rw [isId, ← isOwn.connectionId]
    exact (consistent.formed held).idNonempty origin made
  refine .of_round apart reached running rfl sent rfl (topology.resolve_endpoint other) ?_
  intro env resuming control result fresh succeeds succeedsToo served
  have smooth : ∃ after result, serveResult (topology.endpoint other) env (.ready update)
      (system.engine other).control = (after, result) ∧ Served (topology.endpoint other) env
        (system.engine other).control (.ready update) after result :=
    serve_smooth succeeds openThere (authentic.consistent other) fresh.control named
      (isEndpoint ▸ topology.remote apart.symm)
  obtain ⟨after, given, served', outcome⟩ := smooth
  obtain ⟨rfl, rfl⟩ := Prod.mk.inj (served'.symm.trans served)
  cases outcome with
  | readyRefused unknown =>
      exact absurd (connectedThere.trans isId.symm) (unknown theirs (isEndpoint ▸ heldThere))
  | @ready _ found after foundThere _ rewrites =>
      rw [isEndpoint] at foundThere rewrites
      obtain rfl : found = theirs := Option.some.inj (foundThere.symm.trans heldThere)
      have sameEndpoint : peer.endpoint = topology.endpoint other :=
        isPeer.endpoint.symm.trans keyed
      have isJoined : ∀ current, (system.engine node).control.peers.get? peer.endpoint =
          some current → current.handle = peer.handle → current.state ≠ .created := by
        intro current stored _
        rw [sameEndpoint, held, Option.some.injEq] at stored
        exact stored ▸ joined
      rcases connectFinish_smooth succeedsToo consistent after.snapshot isJoined with
        ⟨current, final, run, stored, _, rewritesHere⟩ | ⟨_, gone⟩
      · rw [sameEndpoint] at stored rewritesHere
        obtain rfl : current = own := Option.some.inj (stored.symm.trans held)
        have newest : update.snapshot.version =
            (system.engine node).control.memoryMetadata.length := by rw [isSnapshot]; rfl
        have newestThere : after.snapshot.version =
            (system.engine other).control.memoryMetadata.length := by
          rw [← rewrites.memories]
          rfl
        rw [newest] at rewrites
        rw [newestThere] at rewritesHere
        refine ⟨_, by simp only [System.resumed?, System.stepResume,
          System.handled_engine_node apart, run]; rfl, fun reachedFinal => ?_⟩
        refine .ended (by simp [Engine.finish]) (heals_of_imports reachedFinal ?_ ?_ ?_
          rewritesHere rewrites connected connectedThere)
        · rw [System.setEngine_engine_self, sameEndpoint]
        · rw [System.setEngine_engine, if_neg apart, System.handled_engine_target]
        · intro one notNode notOther
          rw [System.setEngine_engine, if_neg notNode, System.handled, System.answer_engine,
            System.setEngine_engine, if_neg notOther]
      · exact absurd isPeer.handle (gone own (sameEndpoint ▸ held))

/-- The id that a connected peer is connected to was drawn before. -/
theorem remote_not_fresh {one target : Node} {key : String} {peer : Peer} {env : Environment}
    (reached : (controlSystem topology).Reachable (System.FreshNames topology) system)
    (held : (system.engine one).control.peers.get? key = some peer)
    (joined : peer.state ≠ .created) (fresh : system.FreshFor target env) :
    peer.remoteConnectionId ≠ env.uuid4 := by
  obtain ⟨_, ⟨maker, origin, made, _, rfl⟩, sameId, _⟩ :=
    wired_of_reachable (fun _ _ obeys => obeys) reached one key peer held joined
  exact sameId ▸ fresh.id maker origin made

/-- The connect joins both ends when neither is connected to a peer that the other has given up,
and raises otherwise. -/
def System.HealsIfCompatible (topology : Topology Node) (before : System Node)
    (node other : Node) (final : System Node) : Prop :=
  (before.Compatible topology node other → before.Heals topology node other final) ∧
  (¬before.Compatible topology node other → ∃ error,
    (final.engine node).outcomes = (before.engine node).outcomes ++
      [.connect (topology.endpoint other) (.error error)])

/-- The reply to the offer of `peer` comes from the entry `met` of the other node, which has joined
the offer by then. -/
structure System.Meets (topology : Topology Node) (system : System Node) (node other : Node)
    (peer met : Peer) (control : ControlPlane) : Prop where
  named : met.connectionId ≠ ""
  joins : met.Joins peer.connectionId
  rewrites : ∃ made, Rewrites (system.engine other).control control (topology.endpoint node)
    (some (met.joinedTo peer.connectionId)) made
  compatible : system.Compatible topology node other ↔ peer.Joins met.connectionId

/-- What the handler of the offer does. -/
theorem offer_served {peer : Peer} {env : Environment} {control : ControlPlane}
    {result : Except PyError Reply} (apart : other ≠ node)
    (reached : (controlSystem topology).Reachable (System.FreshNames topology) system)
    (held : (system.engine node).control.peers.get? (topology.endpoint other) = some peer)
    (openThere : (system.engine other).control.closed = false)
    (fresh : system.FreshFor other env) (succeeds : env.Succeeds)
    (served : serveResult (topology.endpoint other) env
      (.connect (offer (topology.endpoint node) peer)) (system.engine other).control =
        (control, result)) :
    (∃ met, result = .ok (.offer (offer (topology.endpoint other) met)) ∧
        system.Meets topology node other peer met control) ∨
      (∃ error, result = .error error) ∧ ¬system.Compatible topology node other := by
  have authentic := authentic_of_reachable (fun _ _ obeys => obeys) reached
  have consistent := authentic.consistent node
  have named : peer.connectionId ≠ "" := by
    obtain ⟨origin, made, isPeer⟩ := consistent.made held
    rw [← isPeer.connectionId]
    exact (consistent.formed held).idNonempty origin made
  -- The entry here points at one of the entries there that answers.
  have pointsTo : ∀ met, (system.engine other).control.peers.get? (topology.endpoint node) =
      some met → (system.Points topology node other ↔ peer.Joins met.connectionId) := by
    intro met heldThere
    simp [System.Points, held, heldThere, Peer.Joins]
  obtain ⟨after, given, served', outcome⟩ := connect_smooth succeeds openThere
    (authentic.consistent other) fresh.control
    (show (offer (topology.endpoint node) peer).connection.id ≠ "" from named)
    (topology.remote apart.symm)
  obtain ⟨rfl, rfl⟩ := Prod.mk.inj (served'.symm.trans served)
  cases outcome with
  | @connectNew _ made _ absent rewrites =>
      refine .inl ⟨_, rfl, fresh.nonempty, .inl rfl, ⟨_, rewrites⟩, ?_⟩
      have vacuous : system.Points topology other node := by
        intro theirs heldThere
        exact absurd (absent.symm.trans heldThere) (by simp)
      have otherId : peer.Joins env.uuid4 ↔ peer.state = .created :=
        ⟨fun joins => joins.elim id fun same => by_contra fun joined =>
          remote_not_fresh reached held joined fresh same, .inl⟩
      have noneThere : (system.engine other).control.peers.get? (topology.endpoint node) =
        none := absent
      simp only [System.Compatible, vacuous, and_true]
      rw [show (freshPeer made _ env.uuid4).connectionId = env.uuid4 from rfl, otherId]
      simp [System.Points, held, noneThere]
  | @connectHeld _ met _ heldThere joins rewrites =>
      have formed := (authentic.consistent other).formed heldThere
      obtain ⟨origin, made, isMet⟩ := (authentic.consistent other).made heldThere
      refine .inl ⟨met, rfl, isMet.connectionId ▸ formed.idNonempty origin made, joins,
        ⟨_, rewrites⟩, ?_⟩
      have heldThere' : (system.engine other).control.peers.get? (topology.endpoint node) =
        some met := heldThere
      have points : system.Points topology other node := by
        intro theirs same
        rw [heldThere', Option.some.injEq] at same
        subst same
        exact joins.imp_right fun same => ⟨peer, held, same⟩
      simp only [System.Compatible, points, and_true]
      exact pointsTo met heldThere
  | @connectRefused _ theirs error heldThere elsewhere =>
      refine .inr ⟨⟨error, rfl⟩, fun compatible => elsewhere ?_⟩
      apply (compatible.2 theirs heldThere).imp_right
      rintro ⟨own, heldHere, same⟩
      rw [held, Option.some.injEq] at heldHere
      exact heldHere ▸ same

/-- The second round, after both ends have joined in the first. -/
theorem joined_completes {middle : System Node} {peer met : Peer} {call : Nat}
    {control after : ControlPlane} (apart : other ≠ node)
    (reached : (controlSystem topology).Reachable (System.FreshNames topology) middle)
    (here : middle.engine node = (system.engine node).proceed after (.updating peer call))
    (there : middle.engine other = { system.engine other with control := control })
    (others : ∀ one, one ≠ node → one ≠ other → middle.engine one = system.engine one)
    (sent : middle.rpcs[call]? = some
      { caller := node, endpoint := topology.endpoint other,
        request := .ready { connection := connection (topology.endpoint node) peer,
                            snapshot := after.snapshot } })
    (rewrites : Rewrites (system.engine node).control after (topology.endpoint other)
      (some (peer.joinedTo met.connectionId)) [])
    (joins : peer.Joins met.connectionId)
    (meets : system.Meets topology node other peer met control) :
    System.Completes topology (System.Unfailing topology) node
      (system.HealsIfCompatible topology node other) middle := by
  obtain ⟨made, rewritesThere⟩ := meets.rewrites
  have held : (middle.engine node).control.peers.get? (topology.endpoint other) =
      some (peer.joinedTo met.connectionId) := by
    rw [here, Engine.proceed, rewrites.peers, if_pos rfl]
  have heldThere : (middle.engine other).control.peers.get? (topology.endpoint node) =
      some (met.joinedTo peer.connectionId) := by
    rw [there, rewritesThere.peers, if_pos rfl]
  have between : system.Between middle node other := by
    refine ⟨others, by rw [there], by rw [there], fun one => ?_⟩
    by_cases isNode : one = node
    · rw [isNode, here]
      exact rewrites.memories
    · by_cases isOther : one = other
      · rw [isOther, there]
        exact rewritesThere.memories
      · rw [others one isNode isOther]
  have completes := updating_completes apart reached (by rw [here]; rfl) sent rfl
    (by rw [here]; rfl) held heldThere (peer.sameObject_joinedTo _) (Peer.joinedTo_connected _ _)
    (by rw [joins.remote, Peer.joinedTo_connectionId])
    (by rw [meets.joins.remote, Peer.joinedTo_connectionId])
  have compatible := meets.compatible.mpr joins
  exact completes.mono fun final heals =>
    ⟨fun _ => heals.of_between between (by rw [here]; rfl), fun no => absurd compatible no⟩

/-- The first round: the other node joins the offer, then this one joins the reply. -/
theorem offering_completes {peer : Peer} {call : Nat} (apart : other ≠ node)
    (reached : (controlSystem topology).Reachable (System.FreshNames topology) system)
    (running : (system.engine node).operation = some (.offering peer call))
    (sent : system.rpcs[call]? = some
      { caller := node, endpoint := topology.endpoint other,
        request := .connect (offer (topology.endpoint node) peer) })
    (held : (system.engine node).control.peers.get? (topology.endpoint other) = some peer)
    (openThere : (system.engine other).control.closed = false) :
    System.Completes topology (System.Unfailing topology) node
      (system.HealsIfCompatible topology node other) system := by
  have authentic := authentic_of_reachable (fun _ _ obeys => obeys) reached
  have consistent := authentic.consistent node
  have keyed := (consistent.formed held).keyed held
  refine .of_round apart reached running rfl sent rfl (topology.resolve_endpoint other) ?_
  intro env resuming control result fresh succeeds succeedsToo served
  rcases offer_served apart reached held openThere fresh succeeds served with
    ⟨met, rfl, meets⟩ | ⟨⟨error, rfl⟩, incompatible⟩
  · have addressed : (offer (topology.endpoint other) met).connection.endpoint =
        peer.endpoint := keyed.symm
    rcases connectUpdate_smooth (topology.endpoint node) succeedsToo consistent addressed
      meets.named with ⟨current, after, run, stored, _, joins, rewrites⟩ | ⟨⟨error, run⟩, stuck⟩
    · obtain rfl : current = peer := by
        rw [keyed, held, Option.some.injEq] at stored
        exact stored.symm
      refine ⟨_, by simp only [System.resumed?, System.stepResume,
        System.handled_engine_node apart, run]; rfl, fun reachedResumed => ?_⟩
      rw [keyed] at rewrites
      refine joined_completes apart reachedResumed (System.setEngine_engine_self _ _ _) ?_ ?_ ?_
        rewrites joins meets
      · rw [System.send_engine, System.setEngine_engine, if_neg apart,
          System.handled_engine_target]
      · intro one notNode notOther
        rw [System.send_engine, System.setEngine_engine, if_neg notNode, System.handled,
          System.answer_engine, System.setEngine_engine, if_neg notOther]
      · simp [keyed]
    · have incompatible : ¬system.Compatible topology node other := fun compatible =>
        stuck peer (keyed ▸ held) rfl (meets.compatible.mp compatible)
      refine ⟨_, by simp only [System.resumed?, System.stepResume,
        System.handled_engine_node apart, run]; rfl, fun _ => ?_⟩
      refine .ended (by simp [Engine.finish])
        ⟨fun compatible => absurd compatible incompatible, fun _ => ⟨error, ?_⟩⟩
      simp [Engine.finish, keyed]
  · refine ⟨_, rfl, fun _ => .ended (by simp [System.raiseRpcError, Engine.finish])
      ⟨fun compatible => absurd compatible incompatible, fun _ => ⟨.rpcError, ?_⟩⟩⟩
    simp [System.raiseRpcError, Engine.finish, Operation.rpcFailed, apart, keyed]

/-! ### A connect that runs alone

The entry that the dial finds or makes, and the cases in which it does not get to its offer. -/

/-- The dial leaves the entry that it found, or a new one, and is about to send its offer. -/
theorem dialed_completes {peer : Peer} {control : ControlPlane} {made : List Peer}
    {dialed : System Node} (apart : other ≠ node)
    (reached : (controlSystem topology).Reachable (System.FreshNames topology) dialed)
    (isDialed : dialed = (system.setEngine node ((system.engine node).proceed control
      (.offering peer system.rpcs.length))).send node (topology.endpoint other)
        (.connect (offer (topology.endpoint node) peer)))
    (openThere : (system.engine other).control.closed = false)
    (rewrites : Rewrites (system.engine node).control control (topology.endpoint other)
      (some peer) made)
    (same : dialed.Compatible topology node other ↔ system.Compatible topology node other) :
    System.Completes topology (System.Unfailing topology) node
      (system.HealsIfCompatible topology node other) dialed := by
  have here : dialed.engine node = (system.engine node).proceed control
      (.offering peer system.rpcs.length) := by
    rw [isDialed, System.send_engine, System.setEngine_engine_self]
  have elsewhere : ∀ one, one ≠ node → dialed.engine one = system.engine one := by
    intro one notNode
    rw [isDialed, System.send_engine, System.setEngine_engine, if_neg notNode]
  have held : (dialed.engine node).control.peers.get? (topology.endpoint other) = some peer := by
    rw [here, Engine.proceed, rewrites.peers, if_pos rfl]
  have completes := offering_completes apart reached (by rw [here]; rfl) (by simp [isDialed])
    held (elsewhere other apart ▸ openThere)
  have between : system.Between dialed node other := by
    refine ⟨fun one notNode _ => elsewhere one notNode, by rw [elsewhere other apart],
      by rw [elsewhere other apart], fun one => ?_⟩
    by_cases isNode : one = node
    · rw [isNode, here]
      exact rewrites.memories
    · rw [elsewhere one isNode]
  have outcomes : (dialed.engine node).outcomes = (system.engine node).outcomes := by
    rw [here]
    rfl
  refine completes.mono fun final ends => ⟨fun compatible => ?_, fun incompatible => ?_⟩
  · exact (ends.1 (same.mpr compatible)).of_between between outcomes
  · obtain ⟨error, raised⟩ := ends.2 (mt same.mp incompatible)
    exact ⟨error, outcomes ▸ raised⟩

/-- The dial of an operation that goes on to send the offer of its entry. -/
theorem step_connect_offers {endpoint : String} {env : Environment} {peer : Peer}
    {control : ControlPlane} (idle : (system.engine node).operation = none)
    (run : (connectOffer (topology.endpoint node) env endpoint).run
      (system.engine node).control = .ok (.inr peer) control) :
    system.step topology (.connect node endpoint env) =
      some ((system.setEngine node ((system.engine node).proceed control
        (.offering peer system.rpcs.length))).send node endpoint
          (.connect (offer (topology.endpoint node) peer))) := by
  simp only [System.step, idle, if_true, System.stepConnect, run]

/-- A connect that runs alone and succeeds natively joins both ends, whatever happened before,
unless one of them is still connected to a peer that the other has given up; it raises then. -/
theorem connect_alone_completes {env : Environment} (apart : other ≠ node)
    (reached : (controlSystem topology).Reachable (System.FreshNames topology) system)
    (idle : (system.engine node).operation = none)
    (openHere : (system.engine node).control.closed = false)
    (openThere : (system.engine other).control.closed = false)
    (unready : ∀ own, (system.engine node).control.peers.get? (topology.endpoint other) =
      some own → own.state ≠ .ready)
    (unfailing : system.Unfailing topology (.connect node (topology.endpoint other) env)) :
    ∃ dialed, system.step topology (.connect node (topology.endpoint other) env) = some dialed ∧
      System.Completes topology (System.Unfailing topology) node
        (system.HealsIfCompatible topology node other) dialed := by
  obtain ⟨fresh, succeeds⟩ := unfailing
  have fresh' : system.FreshFor node env := fresh
  obtain ⟨result, control, run, offers⟩ :=
    connectOffer_smooth succeeds openHere (topology.remote apart)
  cases offers with
  | ready held isReady => exact absurd isReady (unready _ held)
  | @again peer held _ =>
      have taken := step_connect_offers idle run
      refine ⟨_, taken, dialed_completes apart (.step reached fresh taken) rfl openThere
        (held ▸ Rewrites.refl _ _) ?_⟩
      simp [System.Compatible, System.Points, System.setEngine_engine, apart, Engine.proceed]
  | @new made _ absent rewrites =>
      have taken := step_connect_offers idle run
      refine ⟨_, taken, dialed_completes apart (.step reached fresh taken) rfl openThere
        rewrites ?_⟩
      -- No entry there is connected to the id that was drawn now.
      have otherId : ∀ theirs, (system.engine other).control.peers.get? (topology.endpoint node) =
          some theirs → theirs.state ≠ .created → theirs.remoteConnectionId ≠ env.uuid4 :=
        fun theirs heldThere joined => remote_not_fresh reached heldThere joined fresh'
      have held := rewrites.peers (topology.endpoint other)
      rw [if_pos rfl] at held
      simp only [System.Compatible, System.Points, System.send_engine,
        System.setEngine_engine_self, System.setEngine_engine, if_neg apart, Engine.proceed, held,
        absent, Option.some.injEq, reduceCtorEq, false_and, exists_false, or_false,
        IsEmpty.forall_iff, implies_true, true_and, forall_eq', exists_eq_left']
      constructor
      · rintro ⟨_, points⟩ theirs heldThere
        exact (points theirs heldThere).elim id fun same =>
          by_contra fun joined => otherId theirs heldThere joined same
      · exact fun points => ⟨.inl rfl, fun own heldThere => .inl (points own heldThere)⟩

/-- The Close of `alpha` gets lost; it dials again, and `beta` still holds the old peer. -/
theorem connect_alone_completes_pair : ∃ system dialed : System Bool,
    ¬system.Compatible Topology.pair false true ∧
    system.step Topology.pair (.connect false "beta" (.naming 2 "a2")) = some dialed ∧
    System.Completes Topology.pair (System.Unfailing Topology.pair) false
      (system.HealsIfCompatible Topology.pair false true) dialed := by
  have computed : ∃ system, (controlSystem Topology.pair).Reachable
      (System.FreshNames Topology.pair) system ∧
      (system.engine false).operation = none ∧
      (system.engine false).control.closed = false ∧
      (system.engine true).control.closed = false ∧
      (system.engine false).control.peers.get? "beta" = none ∧
      (∃ theirs ∈ (system.engine true).control.peers.get? "alpha", theirs.state ≠ .created) ∧
      system.Unfailing Topology.pair (.connect false "beta" (.naming 2 "a2")) :=
    LabelledSystem.exists_reachable (.initial rfl) (connectAndDisconnect ++ [.timeout false])
      (by decide)
  obtain ⟨system, reached, idle, openHere, openThere, absent, ⟨theirs, held, joined⟩,
    unfailing⟩ := computed
  obtain ⟨dialed, taken, completes⟩ := connect_alone_completes
    (show true ≠ false by decide) reached idle openHere openThere
    (by simp [Topology.pair, absent]) unfailing
  refine ⟨system, dialed, fun compatible => ?_, taken, completes⟩
  rcases compatible.2 theirs held with unconnected | ⟨own, heldHere, _⟩
  · exact joined unconnected
  · exact absurd (absent.symm.trans heldHere) (by simp)

/-! ### Runs without disconnects

Nothing is destroyed in these runs, so a peer that a node is connected to is still in the table
of the other one, and the two ends are compatible. -/

/-- Every peer that was made is still in the table. -/
def ControlPlane.Retains (control : ControlPlane) : Prop :=
  ∀ origin ∈ control.created, ∃ current,
    control.peers.get? origin.endpoint = some current ∧ current.SameObject origin

section Effects

variable {env : Environment} {grant : Grant} {before after : ControlPlane}

theorem Effect.retains (effect : Effect env grant before after) (consistent : before.Consistent)
    (noDestroys : ∀ peer, ¬grant.destroys peer) (retains : before.Retains) : after.Retains := by
  intro origin member
  have old : origin ∈ before.created →
      ∃ current, after.peers.get? origin.endpoint = some current ∧ current.SameObject origin := by
    intro wasMade
    obtain ⟨current, held, same⟩ := retains origin wasMade
    obtain ⟨later, isLater, succeeds⟩ := effect.persists consistent noDestroys held
    exact ⟨later, isLater, succeeds.sameObject.trans same⟩
  cases effect with
  | addPeer =>
      rcases List.mem_append.mp member with wasMade | isNew
      · exact old wasMade
      · obtain rfl := List.mem_singleton.mp isNew
        exact ⟨_, by simp, .refl _⟩
  | _ => exact old member

theorem Effects.retains (effects : Effects env grant before after)
    (consistent : before.Consistent) (noDestroys : ∀ peer, ¬grant.destroys peer)
    (retains : before.Retains) : after.Retains := by
  induction effects with
  | refl => exact retains
  | tail earlier effect inductionHypothesis =>
      exact effect.retains (Effects.consistent earlier consistent) noDestroys inductionHypothesis

end Effects

omit [DecidableEq Node] in
/-- Without disconnects and closes no action is entitled to destroy a peer. -/
theorem Entitled.destroys_nothing {action : Action Node} {grant : Grant}
    (entitled : Entitled topology system action node grant) (noDisconnect : action.NoDisconnect)
    (noCloses : system.NoCloses) (peer : Peer) : ¬grant.destroys peer := by
  intro granted
  cases entitled with
  | disconnect => exact noDisconnect
  | @handle _ _ _ rpc sent =>
      cases isRequest : rpc.request with
      | close connection => exact noCloses rpc (List.mem_of_getElem? sent) connection isRequest
      | connect | ready | changed => simp [isRequest, Request.grant] at granted
  | _ => exact granted

/-- Every open engine retains its peers. -/
def System.Retains (system : System Node) : Prop :=
  ∀ node, (system.engine node).control.closed = false → (system.engine node).control.Retains

theorem Transition.retains {before after : System Node} {action : Action Node}
    (transition : Transition topology before action after) (authentic : Authentic topology before)
    (noDisconnect : action.NoDisconnect) (noCloses : before.NoCloses)
    (retains : before.Retains) : after.Retains := by
  intro node isOpen
  have kept := retains node (transition.was_open authentic isOpen)
  obtain ⟨actor, others, change⟩ := transition.effects
  by_cases here : node = actor
  · subst here
    rcases change with ⟨grant, entitled, _, effects⟩ | ⟨_, isClosed⟩
    · exact Effects.retains effects (authentic.consistent node)
        (entitled.destroys_nothing noDisconnect noCloses) kept
    · have wasOpen := transition.was_open authentic isOpen
      rw [isClosed, ControlPlane.close, wasOpen] at isOpen
      simp at isOpen
  · exact others node here ▸ kept

/-- The discipline of runs that keep their connections: names are fresh, applications dial
advertised endpoints and do not disconnect.  The network may do anything, native calls may fail and
engines may close. -/
structure System.KeepsConnections (topology : Topology Node) (system : System Node)
    (action : Action Node) : Prop where
  fresh : system.FreshNames topology action
  advertised : System.DialsAdvertised topology action
  noDisconnect : action.NoDisconnect

theorem retains_of_reachable
    (reached : (controlSystem topology).Reachable (System.KeepsConnections topology) system) :
    system.Retains := by
  let property (state : System Node) : Prop := state.NoCloses ∧ state.Retains
  have holds : property system := by
    refine reached.invariant_with
      (fun _ => authentic_of_reachable fun _ _ obeys => obeys.fresh) (fun state isStart => ?_) ?_
    · rw [show state = System.start from isStart]
      exact ⟨by simp [System.NoCloses, System.start],
        fun _ _ => by simp [ControlPlane.Retains, System.start]⟩
    · intro before action after authentic _ held obeys taken
      have transition := authentic.transition obeys.fresh taken
      exact ⟨transition.noCloses taken obeys.noDisconnect held.1,
        transition.retains authentic obeys.noDisconnect held.1 held.2⟩
  exact holds.2

/-- Two open nodes whose applications never disconnected stay compatible. -/
theorem compatible_of_reachable
    (reached : (controlSystem topology).Reachable (System.KeepsConnections topology) system)
    (openHere : (system.engine node).control.closed = false)
    (openThere : (system.engine other).control.closed = false) :
    system.Compatible topology node other := by
  have authentic := authentic_of_reachable (fun _ _ obeys => obeys.fresh) reached
  have made := madeForNodes_of_reachable (fun _ _ obeys => obeys.fresh)
    (fun _ _ obeys => obeys.advertised) reached
  have retains := retains_of_reachable reached
  have points : ∀ first second, (system.engine second).control.closed = false →
      system.Points topology first second := by
    intro first second isOpen own held
    by_cases joined : own.state = .created
    · exact .inl joined
    · obtain ⟨maker, origin, connected⟩ := ConnectedTo.of_wired authentic made
        (wired_of_reachable (fun _ _ obeys => obeys.fresh) reached first) held joined
      obtain rfl : maker = second := topology.endpoint_injective
        (connected.maker.trans (((authentic.consistent first).formed held).keyed held))
      obtain ⟨theirs, heldThere, isOrigin⟩ := retains maker isOpen origin connected.made
      exact .inr ⟨theirs, connected.target ▸ heldThere,
        connected.identified.symm.trans isOrigin.connectionId.symm⟩
  exact ⟨points node other openThere, points other node openHere⟩

/-- However many requests and replies got lost, repeated, delayed or overtaken and whichever native
calls failed, a connect that then runs alone joins both ends. -/
theorem connect_heals {env : Environment} (apart : other ≠ node)
    (reached : (controlSystem topology).Reachable (System.KeepsConnections topology) system)
    (idle : (system.engine node).operation = none)
    (openHere : (system.engine node).control.closed = false)
    (openThere : (system.engine other).control.closed = false)
    (unready : ∀ own, (system.engine node).control.peers.get? (topology.endpoint other) =
      some own → own.state ≠ .ready)
    (unfailing : system.Unfailing topology (.connect node (topology.endpoint other) env)) :
    ∃ dialed, system.step topology (.connect node (topology.endpoint other) env) = some dialed ∧
      System.Completes topology (System.Unfailing topology) node
        (system.Heals topology node other) dialed := by
  have compatible := compatible_of_reachable reached openHere openThere
  obtain ⟨dialed, taken, completes⟩ := connect_alone_completes apart
    (reached.mono fun _ _ obeys => obeys.fresh) idle openHere openThere unready unfailing
  exact ⟨dialed, taken, completes.mono fun _ ends => ends.1 compatible⟩

instance [Fintype Node] (topology : Topology Node) (system : System Node) (action : Action Node) :
    Decidable (system.KeepsConnections topology action) :=
  decidable_of_iff (system.FreshNames topology action ∧ System.DialsAdvertised topology action ∧
      action.NoDisconnect)
    ⟨fun ⟨fresh, advertised, noDisconnect⟩ => ⟨fresh, advertised, noDisconnect⟩,
    fun keeps => ⟨keeps.fresh, keeps.advertised, keeps.noDisconnect⟩⟩

/-- The reply to the offer of `alpha` gets lost; it dials again. -/
theorem connect_heals_pair : ∃ system dialed : System Bool,
    (system.engine false).outcomes = [.connect "beta" (.error .rpcError)] ∧
    system.step Topology.pair (.connect false "beta" (.naming 2 "a2")) = some dialed ∧
    System.Completes Topology.pair (System.Unfailing Topology.pair) false
      (system.Heals Topology.pair false true) dialed := by
  have computed : ∃ system, (controlSystem Topology.pair).Reachable
      (System.KeepsConnections Topology.pair) system ∧
      (system.engine false).operation = none ∧
      (system.engine false).outcomes = [.connect "beta" (.error .rpcError)] ∧
      (system.engine false).control.closed = false ∧
      (system.engine true).control.closed = false ∧
      (∀ own ∈ (system.engine false).control.peers.get? "beta", own.state ≠ .ready) ∧
      system.Unfailing Topology.pair (.connect false "beta" (.naming 2 "a2")) :=
    LabelledSystem.exists_reachable (.initial rfl)
      [.connect false "beta" (.naming 1 "a1"), .handle 0 (.naming 1 "b1"), .timeout false]
      (by decide)
  obtain ⟨system, reached, idle, outcomes, openHere, openThere, unready, unfailing⟩ := computed
  obtain ⟨dialed, taken, completes⟩ := connect_heals (show true ≠ false by decide) reached idle
    openHere openThere unready unfailing
  exact ⟨system, dialed, outcomes, taken, completes⟩

end Rdma101
