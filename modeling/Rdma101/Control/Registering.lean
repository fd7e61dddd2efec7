/-
Module: Rdma101.Control.Registering
Purpose: One registration that runs alone, from any state that an unreliable network left behind:
  when its publish returns, and that it then brings every ready peer up to date.
Trusted boundary: none
Main exports: System.Heard, System.Told, registration_alone_completes, System.Mutual,
  registration_heals
-/
import Rdma101.Control.Healing
import Rdma101.Control.Publish

namespace Rdma101

open Wire ControlPlane ControlServicer

variable {Node : Type} {topology : Topology Node} {system : System Node}
  {node other : Node}

/-! ### The peers that a publish notifies

A `Changed` succeeds at the node of a peer exactly when that node holds an entry connected to
the peer.  The call changes no other entry, so whether a later peer is heard of is decided
beforehand. -/

/-- The node that the peer dials holds an entry that is connected to the peer. -/
def System.Heard (topology : Topology Node) (system : System Node) (node : Node) (peer : Peer) :
    Prop :=
  ∀ target, topology.endpoint target = peer.endpoint → ∃ theirs,
    (system.engine target).control.peers.get? (topology.endpoint node) = some theirs ∧
      theirs.remoteConnectionId = peer.connectionId

/-- The entry that is connected to the peer has imported a snapshot of the version. -/
def System.Told (topology : Topology Node) (system : System Node) (node : Node) (version : Nat)
    (peer : Peer) : Prop :=
  ∃ target theirs, topology.endpoint target = peer.endpoint ∧
    (system.engine target).control.peers.get? (topology.endpoint node) = some theirs ∧
    theirs.remoteConnectionId = peer.connectionId ∧ (version : Int) ≤ theirs.remoteVersion

/-- Entries of the other nodes for this one stay connected and forget no snapshot. -/
def System.Keeps (topology : Topology Node) (before after : System Node) (node : Node) : Prop :=
  ∀ target, target ≠ node → ∀ theirs,
    (before.engine target).control.peers.get? (topology.endpoint node) = some theirs →
    ∃ later, (after.engine target).control.peers.get? (topology.endpoint node) = some later ∧
      later.remoteConnectionId = theirs.remoteConnectionId ∧
      theirs.remoteVersion ≤ later.remoteVersion

/-- What the handler of a `Changed` does: it imports the snapshot for the entry that is connected to
the peer, or raises where there is none. -/
theorem changed_served {peer : Peer} {snapshot : Snapshot} {env : Environment}
    {control : ControlPlane} {result : Except PyError Reply} (apart : other ≠ node)
    (consistent : (system.engine other).control.Consistent)
    (fresh : system.FreshFor other env) (succeeds : env.Succeeds)
    (dials : topology.endpoint other = peer.endpoint) (named : peer.connectionId ≠ "")
    (served : serveResult (topology.endpoint other) env
      (.changed { connection := connection (topology.endpoint node) peer, snapshot := snapshot })
      (system.engine other).control = (control, result)) :
    (∃ theirs, (system.engine other).control.peers.get? (topology.endpoint node) = some theirs ∧
        theirs.remoteConnectionId = peer.connectionId ∧ result = .ok .empty ∧
        Rewrites (system.engine other).control control (topology.endpoint node)
          (some (theirs.imported snapshot.version)) []) ∨
      control = (system.engine other).control ∧ (∃ error, result = .error error) ∧
        ¬system.Heard topology node peer := by
  cases isClosed : (system.engine other).control.closed with
  | true =>
      simp only [serveResult, serve, run_changed, isClosed, if_true] at served
      refine .inr ⟨(Prod.mk.inj served).1.symm, ⟨_, (Prod.mk.inj served).2.symm⟩, fun heard => ?_⟩
      · obtain ⟨theirs, held, _⟩ := heard other dials
        simp [consistent.shut isClosed] at held
  | false =>
      have smooth : ∃ after given, serveResult (topology.endpoint other) env
          (.changed { connection := connection (topology.endpoint node) peer,
                      snapshot := snapshot })
          (system.engine other).control = (after, given) ∧ Served (topology.endpoint other) env
            (system.engine other).control (.changed
              { connection := connection (topology.endpoint node) peer, snapshot := snapshot })
            after given :=
        serve_smooth succeeds isClosed consistent fresh.control named (topology.remote apart.symm)
      obtain ⟨after, given, served', outcome⟩ := smooth
      obtain ⟨rfl, rfl⟩ := Prod.mk.inj (served'.symm.trans served)
      cases outcome with
      | @changed _ theirs _ held known rewrites => exact .inl ⟨theirs, held, known, rfl, rewrites⟩
      | @changedRefused _ error unknown =>
          refine .inr ⟨rfl, ⟨error, rfl⟩, fun heard => ?_⟩
          obtain ⟨theirs, held, known⟩ := heard other dials
          exact unknown theirs held known

/-! ### The rounds of a publish

By induction on the peers that are left.  One round notifies one peer, or ends the operation;
what an earlier round has told stays told. -/

/-- The peer dials another node, under a name of its own. -/
def Peer.Addressed (topology : Topology Node) (node : Node) (peer : Peer) : Prop :=
  peer.connectionId ≠ "" ∧ ∃ target, target ≠ node ∧ topology.endpoint target = peer.endpoint

/-- The publish returns when every peer of the list was heard of, with all of them told, and raises
otherwise. -/
structure System.Announces (topology : Topology Node) (before : System Node) (node : Node)
    (metadata : Bytes) (version : Nat) (peers : List Peer) (final : System Node) : Prop where
  control : (final.engine node).control = (before.engine node).control
  keeps : before.Keeps topology final node
  returns : (∀ peer ∈ peers, before.Heard topology node peer) →
    (final.engine node).outcomes =
        (before.engine node).outcomes ++ [.publish metadata (.ok ())] ∧
      ∀ peer ∈ peers, final.Told topology node version peer
  raises : (∃ peer ∈ peers, ¬before.Heard topology node peer) →
    (final.engine node).outcomes =
      (before.engine node).outcomes ++ [.publish metadata (.error .rpcError)]

/-- One `Changed` was handled at `other`, and the publish goes on. -/
structure System.Notified (topology : Topology Node) (before after : System Node)
    (node other : Node) (version : Nat) (theirs : Peer) : Prop where
  held : (before.engine other).control.peers.get? (topology.endpoint node) = some theirs
  control : (after.engine node).control = (before.engine node).control
  outcomes : (after.engine node).outcomes = (before.engine node).outcomes
  there : (after.engine other).control.peers.get? (topology.endpoint node) =
    some (theirs.imported version)
  others : ∀ one, one ≠ node → one ≠ other → after.engine one = before.engine one

section Notified

variable {before after final : System Node} {version : Nat} {theirs peer : Peer}

theorem System.Notified.keeps
    (notified : before.Notified topology after node other version theirs) :
    before.Keeps topology after node := by
  intro target notNode found held
  by_cases isOther : target = other
  · subst isOther
    obtain rfl : theirs = found := Option.some.inj (notified.held.symm.trans held)
    exact ⟨_, notified.there, rfl, Int.le_max_left _ _⟩
  · exact ⟨found, by rw [notified.others target notNode isOther, held], rfl, Int.le_refl _⟩

/-- A `Changed` changes for no peer whether it is heard of. -/
theorem System.Notified.heard_iff
    (notified : before.Notified topology after node other version theirs)
    (addressed : peer.Addressed topology node) :
    after.Heard topology node peer ↔ before.Heard topology node peer := by
  obtain ⟨_, dialed, notNode, dials⟩ := addressed
  have only : ∀ target, topology.endpoint target = peer.endpoint → target = dialed :=
    fun target isTarget => topology.endpoint_injective (isTarget.trans dials.symm)
  by_cases isOther : dialed = other
  · subst isOther
    constructor
    · intro heard target isTarget
      obtain rfl := only target isTarget
      obtain ⟨found, held, known⟩ := heard target isTarget
      rw [notified.there, Option.some.injEq] at held
      exact ⟨theirs, notified.held, by rw [← known, ← held]; rfl⟩
    · intro heard target isTarget
      obtain rfl := only target isTarget
      obtain ⟨found, held, known⟩ := heard target isTarget
      rw [notified.held, Option.some.injEq] at held
      exact ⟨_, notified.there, held ▸ known⟩
  · have same : ∀ target, topology.endpoint target = peer.endpoint →
        after.engine target = before.engine target := fun target isTarget => by
      rw [only target isTarget, notified.others dialed notNode isOther]
    constructor <;> intro heard target isTarget
    · exact same target isTarget ▸ heard target isTarget
    · exact (same target isTarget).symm ▸ heard target isTarget

/-- A peer that was told stays told. -/
theorem System.Told.keeps (told : before.Told topology node version peer)
    (addressed : peer.Addressed topology node) (keeps : before.Keeps topology after node) :
    after.Told topology node version peer := by
  obtain ⟨target, found, isTarget, held, known, newest⟩ := told
  obtain ⟨_, dialed, notNode, dials⟩ := addressed
  obtain rfl := topology.endpoint_injective (isTarget.trans dials.symm)
  obtain ⟨later, isLater, sameRemote, notOlder⟩ := keeps target notNode found held
  exact ⟨target, later, isTarget, isLater, sameRemote.trans known, Int.le_trans newest notOlder⟩

theorem System.Keeps.of_same (same : ∀ one, one ≠ node → after.engine one = before.engine one) :
    before.Keeps topology after node :=
  fun target notNode found held => ⟨found, by rw [same target notNode, held], rfl, Int.le_refl _⟩

theorem System.Keeps.trans (left : before.Keeps topology after node)
    (right : after.Keeps topology final node) : before.Keeps topology final node := by
  intro target notNode theirs held
  obtain ⟨middle, isMiddle, sameRemote, notOlder⟩ := left target notNode theirs held
  obtain ⟨later, isLater, sameRemote', notOlder'⟩ := right target notNode middle isMiddle
  exact ⟨later, isLater, sameRemote'.trans sameRemote, Int.le_trans notOlder notOlder'⟩

/-- The first peer was notified, then the others were. -/
theorem System.Announces.cons {metadata : Bytes} {rest : List Peer}
    (notified : before.Notified topology after node other version theirs)
    (dials : topology.endpoint other = peer.endpoint)
    (known : theirs.remoteConnectionId = peer.connectionId)
    (addressed : ∀ one ∈ peer :: rest, one.Addressed topology node)
    (announces : after.Announces topology node metadata version rest final) :
    before.Announces topology node metadata version (peer :: rest) final where
  control := announces.control.trans notified.control
  keeps := notified.keeps.trans announces.keeps
  returns := by
    intro heard
    obtain ⟨outcomes, told⟩ := announces.returns fun one member =>
      (notified.heard_iff (addressed one (.tail _ member))).mpr (heard one (.tail _ member))
    refine ⟨notified.outcomes ▸ outcomes, fun one member => ?_⟩
    rcases List.mem_cons.mp member with rfl | later
    · have toldNow : after.Told topology node version one :=
        ⟨other, _, dials, notified.there, known, Int.le_max_right _ _⟩
      exact toldNow.keeps (addressed one (.head _)) announces.keeps
    · exact told one later
  raises := by
    rintro ⟨one, member, unheard⟩
    rcases List.mem_cons.mp member with rfl | later
    · refine absurd (fun target isTarget => ?_) unheard
      obtain rfl := topology.endpoint_injective (isTarget.trans dials.symm)
      exact ⟨theirs, notified.held, known⟩
    · exact notified.outcomes ▸ announces.raises ⟨one, later,
        mt (notified.heard_iff (addressed one member)).mp unheard⟩

end Notified

variable [DecidableEq Node]

section Loop

variable {metadata : Bytes} {snapshot : Snapshot} {peer : Peer} {rest : List Peer} {call : Nat}

/-- The state in which the loop of a publish goes on after one peer was notified. -/
theorem notified_handled {control : ControlPlane} {result : Except PyError Reply} {theirs : Peer}
    {version : Nat} {after : System Node} (apart : other ≠ node)
    (held : (system.engine other).control.peers.get? (topology.endpoint node) = some theirs)
    (rewrites : Rewrites (system.engine other).control control (topology.endpoint node)
      (some (theirs.imported version)) [])
    (sameControl : (after.engine node).control = (system.engine node).control)
    (sameOutcomes : (after.engine node).outcomes = (system.engine node).outcomes)
    (elsewhere : ∀ one, one ≠ node →
      after.engine one = (system.handled other call control result).engine one) :
    system.Notified topology after node other version theirs where
  held := held
  control := sameControl
  outcomes := sameOutcomes
  there := by rw [elsewhere other apart, System.handled_engine_target, rewrites.peers, if_pos rfl]
  others := by
    intro one notNode notOther
    rw [elsewhere one notNode, System.handled, System.answer_engine, System.setEngine_engine,
      if_neg notOther]

/-- One round of a publish: the loop goes on in a state where the peer was notified, or the publish
raises because the peer was not heard of. -/
theorem notifying_round {goal : System Node → Prop}
    (reached : (controlSystem topology).Reachable (System.FreshNames topology) system)
    (running : (system.engine node).operation =
      some (.notifying metadata snapshot peer rest call))
    (sent : system.rpcs[call]? = some
      { caller := node, endpoint := peer.endpoint,
        request := .changed { connection := connection (topology.endpoint node) peer,
                              snapshot := snapshot } })
    (addressed : peer.Addressed topology node)
    (goesOn : ∀ other theirs control, other ≠ node → topology.endpoint other = peer.endpoint →
      (system.engine other).control.peers.get? (topology.endpoint node) = some theirs →
      theirs.remoteConnectionId = peer.connectionId →
      Rewrites (system.engine other).control control (topology.endpoint node)
        (some (theirs.imported snapshot.version)) [] →
      (controlSystem topology).Reachable (System.FreshNames topology)
        ((system.handled other call control (.ok .empty)).notify topology node
          (system.engine node).control metadata snapshot rest) →
      System.Completes topology (System.Unfailing topology) node goal
        ((system.handled other call control (.ok .empty)).notify topology node
          (system.engine node).control metadata snapshot rest))
    (raised : ∀ final, ¬system.Heard topology node peer →
      (final.engine node).control = (system.engine node).control →
      system.Keeps topology final node →
      (final.engine node).outcomes =
        (system.engine node).outcomes ++ [.publish metadata (.error .rpcError)] → goal final) :
    System.Completes topology (System.Unfailing topology) node goal system := by
  obtain ⟨named, other, apart, dials⟩ := addressed
  have authentic := authentic_of_reachable (fun _ _ obeys => obeys) reached
  refine .of_round apart reached running rfl sent rfl
    (by rw [← dials, topology.resolve_endpoint]) ?_
  intro env resuming control result fresh succeeds _ served
  rcases changed_served apart (authentic.consistent other) fresh succeeds dials named served with
    ⟨theirs, held, known, rfl, rewrites⟩ | ⟨rfl, ⟨error, rfl⟩, unheard⟩
  · refine ⟨_, by simp only [System.resumed?, System.stepResume,
      System.handled_engine_node apart]; rfl, fun reachedResumed => ?_⟩
    exact goesOn other theirs control apart dials held known rewrites reachedResumed
  · refine ⟨_, rfl, fun _ => .ended (by simp [System.raiseRpcError, Engine.finish])
      (raised _ unheard ?_ ?_ ?_)⟩
    · simp [System.raiseRpcError, Engine.finish, apart]
    · refine .of_same fun target notNode => ?_
      rw [System.raiseRpcError, System.setEngine_engine, if_neg notNode]
      by_cases isOther : target = other
      · rw [isOther, System.handled_engine_target]
      · rw [System.handled, System.answer_engine, System.setEngine_engine, if_neg isOther]
    · simp [System.raiseRpcError, Engine.finish, Operation.rpcFailed, apart]

theorem System.notify_cons_engine (control : ControlPlane) :
    (system.notify topology node control metadata snapshot (peer :: rest)).engine node =
      (system.engine node).proceed control
        (.notifying metadata snapshot peer rest system.rpcs.length) := by
  simp [notify]

theorem System.notify_cons_elsewhere (control : ControlPlane) (apart : other ≠ node) :
    (system.notify topology node control metadata snapshot (peer :: rest)).engine other =
      system.engine other := by
  rw [notify, send_engine, setEngine_engine, if_neg apart]

theorem System.notify_cons_sent (control : ControlPlane) :
    (system.notify topology node control metadata snapshot (peer :: rest)).rpcs[
        system.rpcs.length]? =
      some { caller := node, endpoint := peer.endpoint,
             request := .changed { connection := connection (topology.endpoint node) peer,
                                   snapshot := snapshot } } := by
  simp [notify]

/-- The rounds of a publish, one for each peer that is left. -/
theorem notifying_completes
    (reached : (controlSystem topology).Reachable (System.FreshNames topology) system)
    (running : (system.engine node).operation =
      some (.notifying metadata snapshot peer rest call))
    (sent : system.rpcs[call]? = some
      { caller := node, endpoint := peer.endpoint,
        request := .changed { connection := connection (topology.endpoint node) peer,
                              snapshot := snapshot } })
    (addressed : ∀ one ∈ peer :: rest, one.Addressed topology node) :
    System.Completes topology (System.Unfailing topology) node
      (system.Announces topology node metadata snapshot.version (peer :: rest)) system := by
  induction rest generalizing system peer call with
  | nil =>
      apply notifying_round reached running sent (addressed peer (.head _))
      · intro other theirs control apart dials held known rewrites _
        refine .ended (by simp [System.notify, Engine.finish]) ?_
        have notified : system.Notified topology (system.handled other call control (.ok .empty))
            node other snapshot.version theirs :=
          notified_handled apart held rewrites (by rw [System.handled_engine_node apart])
            (by rw [System.handled_engine_node apart]) fun _ _ => rfl
        refine .cons notified dials known addressed ⟨?_, .of_same fun one notNode => ?_,
          fun _ => ⟨?_, by simp⟩, by simp⟩
        · simp [System.notify, Engine.finish, apart]
        · rw [System.notify, System.setEngine_engine, if_neg notNode]
        · simp [System.notify, Engine.finish]
      · intro final unheard control keeps outcomes
        exact ⟨control, keeps, fun heard => absurd (heard peer (.head _)) unheard,
          fun _ => outcomes⟩
  | cons next rest inductionHypothesis =>
      apply notifying_round reached running sent (addressed peer (.head _))
      · intro other theirs control apart dials held known rewrites reachedResumed
        have completes := inductionHypothesis reachedResumed
          (by rw [System.notify_cons_engine]; rfl) (System.notify_cons_sent _)
          fun one member => addressed one (.tail _ member)
        refine completes.mono fun final announces => .cons (notified_handled apart held rewrites
          ?_ ?_ fun one => System.notify_cons_elsewhere _) dials known addressed announces
        · rw [System.notify_cons_engine]
          rfl
        · rw [System.notify_cons_engine, System.handled_engine_node apart]
          rfl
      · intro final unheard control keeps outcomes
        exact ⟨control, keeps, fun heard => absurd (heard peer (.head _)) unheard,
          fun _ => outcomes⟩

end Loop

/-! ### A registration that runs alone

The new metadata is the last one of the list, so a peer that imported the newest snapshot has
imported the whole list. -/

/-- The entry that is connected to the peer has imported exactly what the node has published. -/
def System.UpToDate (topology : Topology Node) (system : System Node) (node : Node)
    (peer : Peer) : Prop :=
  ∃ target theirs, topology.endpoint target = peer.endpoint ∧
    (system.engine target).control.peers.get? (topology.endpoint node) = some theirs ∧
    theirs.remoteConnectionId = peer.connectionId ∧
    ∀ metadata, (theirs.handle, metadata) ∈ (system.engine target).control.native.imports ↔
      metadata ∈ (system.engine node).control.memoryMetadata

/-- The registration that ended has published the metadata.  It returned, with every ready peer
up to date, if all of them were heard of, and raised otherwise. -/
structure System.Registers (topology : Topology Node) (before : System Node) (node : Node)
    (metadata : Bytes) (final : System Node) : Prop where
  listed : (final.engine node).control.memoryMetadata =
    (before.engine node).control.memoryMetadata ++ [metadata]
  returns : (∀ peer ∈ (before.engine node).control.readyPeers,
      before.Heard topology node peer) →
    (final.engine node).outcomes =
        (before.engine node).outcomes ++ [.publish metadata (.ok ())] ∧
      ∀ peer ∈ (before.engine node).control.readyPeers, final.UpToDate topology node peer
  raises : (∃ peer ∈ (before.engine node).control.readyPeers,
      ¬before.Heard topology node peer) →
    (final.engine node).outcomes =
      (before.engine node).outcomes ++ [.publish metadata (.error .rpcError)]

/-- A peer that was told of the newest snapshot is up to date. -/
theorem System.Told.upToDate {peer : Peer}
    (reached : (controlSystem topology).Reachable (System.FreshNames topology) system)
    (openHere : (system.engine node).control.closed = false)
    (told : system.Told topology node (system.engine node).control.memoryMetadata.length peer) :
    system.UpToDate topology node peer := by
  obtain ⟨target, theirs, isTarget, held, known, newest⟩ := told
  exact ⟨target, theirs, isTarget, held, known, imports_whole reached held openHere newest⟩

/-- The discipline of runs whose applications dial advertised endpoints. -/
def System.DialsFresh (topology : Topology Node) (system : System Node) (action : Action Node) :
    Prop :=
  system.FreshNames topology action ∧ System.DialsAdvertised topology action

/-- The peers that a publish notifies dial other nodes. -/
theorem readyPeers_addressed {peer : Peer}
    (reached : (controlSystem topology).Reachable (System.DialsFresh topology) system)
    (member : peer ∈ (system.engine node).control.readyPeers) : peer.Addressed topology node := by
  have authentic := authentic_of_reachable (fun _ _ obeys => obeys.1) reached
  have made := madeForNodes_of_reachable (fun _ _ obeys => obeys.1) (fun _ _ obeys => obeys.2)
    reached
  obtain ⟨isValue, _⟩ := List.mem_filter.mp member
  obtain ⟨key, held⟩ := OrderedDict.mem_values.mp isValue
  obtain ⟨origin, isOrigin, isPeer⟩ := (authentic.consistent node).made held
  obtain ⟨target, notNode, dials⟩ := made node origin isOrigin
  refine ⟨?_, target, notNode, by rw [← dials, isPeer.endpoint]⟩
  rw [← isPeer.connectionId]
  exact ((authentic.consistent node).formed held).idNonempty origin isOrigin

/-- When applications dial advertised endpoints, the loop of `publish` and the steps of the system
agree in every reachable state. -/
theorem leads_publish_of_reachable {metadata : Bytes} {remotes : Remotes} (network : Network)
    (reached : (controlSystem topology).Reachable (System.DialsFresh topology) system)
    (waits : (system.engine node).operation = some (.registered metadata))
    (faces : system.Faces topology node remotes) :
    ∃ after, (controlSystem topology).Leads (fun _ _ => True) system after ∧
      system.PublishEnds topology node metadata after
        ((network.publish (topology.endpoint node) metadata).run
          ((system.engine node).control, remotes)) :=
  leads_publish network waits (fun _ member => (readyPeers_addressed reached member).2) faces

/-- The publish of a registration, once it has told every ready peer of the list with the new
metadata. -/
theorem System.Announces.registers {announced final : System Node} {metadata : Bytes}
    (reached : (controlSystem topology).Reachable (System.FreshNames topology) final)
    (openHere : (announced.engine node).control.closed = false)
    (listed : (announced.engine node).control.memoryMetadata =
      (system.engine node).control.memoryMetadata ++ [metadata])
    (outcomes : (announced.engine node).outcomes = (system.engine node).outcomes)
    (elsewhere : ∀ one, one ≠ node → announced.engine one = system.engine one)
    (addressed : ∀ peer ∈ (system.engine node).control.readyPeers,
      peer.Addressed topology node)
    (announces : announced.Announces topology node metadata
      (announced.engine node).control.memoryMetadata.length
      (system.engine node).control.readyPeers final) :
    system.Registers topology node metadata final := by
  have heard_iff : ∀ peer ∈ (system.engine node).control.readyPeers,
      (announced.Heard topology node peer ↔ system.Heard topology node peer) := by
    intro peer member
    obtain ⟨_, dialed, notNode, dials⟩ := addressed peer member
    have same : ∀ target, topology.endpoint target = peer.endpoint →
        announced.engine target = system.engine target := fun target isTarget => by
      rw [topology.endpoint_injective (isTarget.trans dials.symm), elsewhere dialed notNode]
    constructor <;> intro heard target isTarget
    · exact same target isTarget ▸ heard target isTarget
    · exact (same target isTarget).symm ▸ heard target isTarget
  refine ⟨by rw [announces.control, listed], fun heard => ?_, ?_⟩
  · obtain ⟨returned, told⟩ := announces.returns fun peer member =>
      (heard_iff peer member).mpr (heard peer member)
    refine ⟨outcomes ▸ returned, fun peer member => ?_⟩
    exact System.Told.upToDate reached (announces.control ▸ openHere)
      (announces.control ▸ told peer member)
  · rintro ⟨peer, member, unheard⟩
    exact outcomes ▸ announces.raises ⟨peer, member, mt (heard_iff peer member).mp unheard⟩

instance [Fintype Node] (topology : Topology Node) (system : System Node) (action : Action Node) :
    Decidable (system.DialsFresh topology action) :=
  inferInstanceAs (Decidable (_ ∧ _))

/-- A registration that runs alone and succeeds natively publishes to every ready peer, whatever
happened before, if all of them are heard of; it raises otherwise. -/
theorem registration_alone_completes {env : Environment}
    (reached : (controlSystem topology).Reachable (System.DialsFresh topology) system)
    (idle : (system.engine node).operation = none)
    (openHere : (system.engine node).control.closed = false) (succeeds : env.Succeeds) :
    ∃ registration registered announced, env.registerLocalMemory = .ok registration ∧
      system.step topology (.registerLocalMemory node env) = some registered ∧
      registered.step topology (.publish node) = some announced ∧
      System.Completes topology (System.Unfailing topology) node
        (system.Registers topology node registration.metadata) announced := by
  obtain ⟨_, _, _, _, registration, answer⟩ := succeeds.answers
  obtain ⟨native, run⟩ : ∃ native, (registerLocalMemory env).run (system.engine node).control =
      .ok registration { (system.engine node).control with native := native } :=
    ⟨_, by simp [registerLocalMemory, run_checkOpen, openHere, NativeEngine.registerLocalMemory,
      answer]; rfl⟩
  let control : ControlPlane := { (system.engine node).control with native := native }
  let listed : ControlPlane :=
    { control with memoryMetadata := control.memoryMetadata ++ [registration.metadata] }
  let registered := system.setEngine node ((system.engine node).proceed control
    (.registered registration.metadata))
  have registers : system.step topology (.registerLocalMemory node env) = some registered := by
    simp only [System.step, idle, if_true, System.stepRegister, run, registered, control]
  have publishes : registered.step topology (.publish node) = some (registered.notify topology
      node listed registration.metadata listed.snapshot
        (system.engine node).control.readyPeers) := by
    have isEngine : registered.engine node = (system.engine node).proceed control
        (.registered registration.metadata) := System.setEngine_engine_self _ _ _
    have append : (publishAppend registration.metadata).run control =
        .ok (listed.snapshot, (system.engine node).control.readyPeers) listed :=
      run_publishAppend openHere
    simp only [System.step, isEngine, Engine.proceed, System.stepPublish, append]
  have reachedRegistered : (controlSystem topology).Reachable (System.FreshNames topology)
      registered :=
    .step (reached.mono fun _ _ obeys => obeys.1)
      (show system.FreshNames topology (.registerLocalMemory node env) from trivial) registers
  have reachedListed := LabelledSystem.Reachable.step reachedRegistered
    (show registered.FreshNames topology (.publish node) from trivial) publishes
  have addressed : ∀ peer ∈ (system.engine node).control.readyPeers,
      peer.Addressed topology node := fun peer => readyPeers_addressed reached
  refine ⟨registration, registered, _, answer, registers, publishes, ?_⟩
  cases peers : (system.engine node).control.readyPeers with
  | nil =>
      refine .ended (by simp [System.notify, Engine.finish]) ⟨?_, fun _ => ⟨?_, ?_⟩, ?_⟩
      · simp [System.notify, Engine.finish, listed, control]
      · simp [System.notify, Engine.finish, registered, Engine.proceed]
      · simp [peers]
      · simp [peers]
  | cons peer rest =>
      rw [peers] at reachedListed
      have completes := notifying_completes reachedListed
        (by rw [System.notify_cons_engine]; rfl) (System.notify_cons_sent _) (peers ▸ addressed)
      apply (completes.reachable (fun _ _ obeys => obeys.1) reachedListed).mono
      rintro final ⟨reachedFinal, announces⟩
      let announced := registered.notify topology node listed registration.metadata
        listed.snapshot (peer :: rest)
      have isEngine : announced.engine node = (registered.engine node).proceed listed
          (.notifying registration.metadata listed.snapshot peer rest registered.rpcs.length) :=
        System.notify_cons_engine listed
      have announces' : announced.Announces topology node registration.metadata
          (announced.engine node).control.memoryMetadata.length
          (system.engine node).control.readyPeers final := by
        rw [isEngine, peers]
        exact announces
      refine announces'.registers reachedFinal ?_ ?_ ?_ ?_ addressed
      · rw [isEngine]
        exact openHere
      · rw [isEngine]
        rfl
      · rw [isEngine]
        simp [Engine.proceed, registered]
      · intro one notNode
        rw [System.notify_cons_elsewhere listed notNode, System.setEngine_engine, if_neg notNode]

/-- The Close of `alpha` gets lost, so that `beta` still notifies it; `beta` registers a memory. -/
theorem registration_alone_completes_pair : ∃ system announced : System Bool,
    System.Completes Topology.pair (System.Unfailing Topology.pair) true (fun final =>
      (final.engine true).outcomes =
        (system.engine true).outcomes ++ [.publish [7] (.error .rpcError)]) announced := by
  have computed : ∃ system, (controlSystem Topology.pair).Reachable
      (System.DialsFresh Topology.pair) system ∧
      (system.engine true).operation = none ∧
      (system.engine true).control.closed = false ∧
      (system.engine false).control.peers.get? "beta" = none ∧
      ∃ peer ∈ (system.engine true).control.readyPeers, peer.endpoint = "alpha" :=
    LabelledSystem.exists_reachable (.initial rfl) (connectAndDisconnect ++ [.timeout false])
      (by decide)
  obtain ⟨system, reached, idle, isOpen, absent, peer, member, dials⟩ := computed
  obtain ⟨registration, _, announced, answer, _, _, completes⟩ :=
    registration_alone_completes reached idle isOpen
      (show (Environment.naming 7 "").Succeeds by decide)
  obtain rfl : ⟨7, [7]⟩ = registration := Except.ok.inj answer
  refine ⟨system, announced, completes.mono fun final ended =>
    ended.raises ⟨peer, member, fun heard => ?_⟩⟩
  obtain ⟨theirs, held, _⟩ := heard false dials.symm
  exact absurd (absent.symm.trans held) (by simp)

/-! ### Runs without disconnects

A ready peer is heard of because its counterpart is connected: the step that marked it ready
found it so, and without disconnects it stays so. -/

/-- The caller of a `Ready` is connected itself. -/
def System.Vouched (system : System Node) : Prop :=
  ∀ rpc ∈ system.rpcs, ∀ update, rpc.request = .ready update →
    (system.engine rpc.caller).control.closed = false →
    ∃ entry, (system.engine rpc.caller).control.peers.get? rpc.endpoint = some entry ∧
      entry.state ≠ .created

/-- The counterpart of a ready peer is connected. -/
def System.Mutual (topology : Topology Node) (system : System Node) : Prop :=
  ∀ node other own,
    (system.engine node).control.peers.get? (topology.endpoint other) = some own →
    own.state = .ready → (system.engine other).control.closed = false →
    ∃ theirs, (system.engine other).control.peers.get? (topology.endpoint node) = some theirs ∧
      theirs.state ≠ .created

/-- A connected peer stays connected. -/
theorem Peer.Succeeds.stays_connected {peer later : Peer} (succeeds : peer.Succeeds later)
    (connected : peer.state ≠ .created) : later.state ≠ .created := by
  have rank := succeeds.rank
  intro unconnected
  rw [unconnected] at rank
  cases isState : peer.state <;> simp_all [PeerState.rank]

section Steps

variable {before after : System Node} {action : Action Node}

theorem Transition.vouched (transition : Transition topology before action after)
    (authentic : Authentic topology before) (noDisconnect : action.NoDisconnect)
    (noCloses : before.NoCloses) (vouched : before.Vouched) : after.Vouched := by
  intro rpc member update isReady isOpen
  have old : ∀ earlier ∈ before.rpcs, earlier.caller = rpc.caller →
      earlier.endpoint = rpc.endpoint → earlier.request = rpc.request →
      ∃ entry, (after.engine rpc.caller).control.peers.get? rpc.endpoint = some entry ∧
        entry.state ≠ .created := by
    intro earlier isEarlier sameCaller sameEndpoint sameRequest
    obtain ⟨entry, held, connected⟩ := vouched earlier isEarlier update
      (sameRequest.trans isReady) (sameCaller ▸ transition.was_open authentic isOpen)
    obtain ⟨later, isLater, succeeds⟩ := transition.persists authentic noDisconnect noCloses
      isOpen (sameCaller ▸ sameEndpoint ▸ held)
    exact ⟨later, isLater, succeeds.stays_connected connected⟩
  cases transition with
  | ended => exact old rpc member rfl rfl rfl
  | registered => exact old rpc member rfl rfl rfl
  | closed => exact old rpc member rfl rfl rfl
  | @sent _ node grant control operation endpoint request entitled effects sends =>
      rcases List.mem_append.mp member with wasSent | isNew
      · exact old rpc wasSent rfl rfl rfl
      · obtain rfl := List.mem_singleton.mp isNew
        obtain rfl : request = .ready update := isReady
        generalize (before.engine node).operation = previous at sends
        cases sends with
        | @update peer current _ held _ connected =>
            exact ⟨current, by simpa [Engine.proceed] using held, connected⟩
  | @handled number env found target control result =>
      obtain ⟨index, isRpc⟩ := List.mem_iff_getElem?.mp member
      rw [System.answer_getElem?, System.setEngine_rpcs] at isRpc
      split at isRpc
      · obtain ⟨earlier, isEarlier, rfl⟩ := Option.map_eq_some_iff.mp isRpc
        exact old earlier (List.mem_of_getElem? isEarlier) rfl rfl rfl
      · exact old rpc (List.mem_of_getElem? isRpc) rfl rfl rfl

omit [DecidableEq Node] in
/-- The reply to a `Ready` tells that the peer at its target is ready. -/
theorem System.Acknowledged.of_ready {peer : Peer} {call : Nat} {rpc : Rpc Node} {reply : Reply}
    {snapshot : Snapshot} (acknowledged : before.Acknowledged topology)
    (isSent : before.Sent call node peer.endpoint
      (.ready { connection := connection (topology.endpoint node) peer, snapshot := snapshot }))
    (found : before.rpcs[call]? = some rpc) (answered : .ok reply ∈ rpc.answers)
    (dials : peer.endpoint = topology.endpoint other)
    (openHere : (before.engine node).control.closed = false)
    (openThere : (before.engine other).control.closed = false) :
    ∃ theirs, (before.engine other).control.peers.get? (topology.endpoint node) = some theirs ∧
      theirs.remoteConnectionId = peer.connectionId ∧ theirs.state = .ready := by
  obtain ⟨sent, isRpc, rfl, isEndpoint, isRequest⟩ := isSent
  obtain rfl : rpc = sent := Option.some.inj (found.symm.trans isRpc)
  obtain ⟨theirs, held, acknowledges⟩ := acknowledged rpc (List.mem_of_getElem? found) reply
    answered other (by rw [isEndpoint, dials, topology.resolve_endpoint]) openHere openThere
  rw [isRequest] at held acknowledges
  exact ⟨theirs, held, acknowledges.1, acknowledges.2.1⟩

/-- A step that marks a peer ready finds its counterpart connected. -/
theorem Transition.mutual_before (transition : Transition topology before action after)
    (authentic : Authentic topology before) (made : MadeForNodes topology before)
    (acknowledged : before.Acknowledged topology) (vouched : before.Vouched)
    (known : before.Mutual topology) {own : Peer}
    (held : (after.engine node).control.peers.get? (topology.endpoint other) = some own)
    (isReady : own.state = .ready)
    (openThere : (before.engine other).control.closed = false) :
    ∃ theirs, (before.engine other).control.peers.get? (topology.endpoint node) = some theirs ∧
      theirs.state ≠ .created := by
  have consistent := authentic.consistent node
  obtain ⟨actor, others, change⟩ := transition.effects
  by_cases here : node = actor
  · subst here
    rcases change with ⟨grant, entitled, _, effects⟩ | ⟨_, isClosed⟩
    · have openHere : (before.engine node).control.closed = false := by
        rw [← Effects.closed effects]
        exact (Effects.consistent effects consistent).open_of_held held
      have was : (∀ peer, ¬grant.readies peer) → ∃ theirs,
          (before.engine other).control.peers.get? (topology.endpoint node) = some theirs ∧
            theirs.state ≠ .created := by
        intro noReadies
        obtain ⟨earlier, earlierHeld, _, wasReady⟩ :=
          Effects.ready_before effects consistent noReadies held isReady
        exact known node other earlier earlierHeld wasReady openThere
      -- A grant that is about other peers only leaves this one as it was.
      have spared : (∀ key, ¬grant.creates key) → (∀ peer offer, ¬grant.offers peer offer) →
          (∀ peer, ¬grant.destroys peer) →
          (∀ peer, peer.endpoint = topology.endpoint other →
            (∀ given, ¬grant.imports peer given) ∧ ¬grant.readies peer) → ∃ theirs,
          (before.engine other).control.peers.get? (topology.endpoint node) = some theirs ∧
            theirs.state ≠ .created := by
        intro noCreates noOffers noDestroys noOther
        obtain ⟨earlier, earlierHeld, _, _⟩ := Effects.joined_before effects consistent noCreates
          noOffers held (by simp [isReady])
        have isKey := (consistent.formed earlierHeld).keyed earlierHeld
        obtain ⟨noImports, noReadies⟩ := noOther earlier isKey
        have same := (Effects.spares effects consistent (isKey ▸ earlierHeld)
          ⟨noOffers earlier, noImports, noReadies, noDestroys earlier⟩).1
        rw [isKey, held, Option.some.injEq] at same
        exact known node other earlier earlierHeld (same ▸ isReady) openThere
      cases entitled with
      | nothing | dial | join | append | disconnect | register => exact was fun _ => id
      | @finish _ _ call env peer rpc snapshot running found answered =>
          by_cases dials : peer.endpoint = topology.endpoint other
          · obtain ⟨_, ⟨given, isSent⟩, _⟩ := authentic.operations node _ running
            obtain ⟨theirs, heldThere, _, isReadyThere⟩ := acknowledged.of_ready isSent found
              answered dials openHere openThere
            exact ⟨theirs, heldThere, by simp [isReadyThere]⟩
          · exact spared (fun _ => id) (fun _ _ => id) (fun _ => id) fun one isOther =>
              ⟨fun _ granted => dials (granted.2.1.symm.trans isOther),
                fun granted => dials (granted.2.symm.trans isOther)⟩
      | @handle _ call env rpc found reached =>
          cases isRequest : rpc.request with
          | ready update =>
              by_cases addressed : update.connection.endpoint = topology.endpoint other
              · have isRpc := List.mem_of_getElem? found
                obtain ⟨origin, isOrigin, isEndpoint, about⟩ := authentic.requests rpc isRpc
                simp only [isRequest] at about
                obtain rfl : rpc.caller = other := topology.endpoint_injective
                  (by rw [← addressed, about.1]; rfl)
                obtain ⟨target, _, dials⟩ := made rpc.caller origin isOrigin
                obtain rfl : target = node := by
                  rw [← isEndpoint, dials, topology.resolve_endpoint] at reached
                  exact Option.some.inj reached
                obtain ⟨entry, entryHeld, connected⟩ := vouched rpc isRpc update isRequest openThere
                exact ⟨entry, by rw [← dials, isEndpoint, entryHeld], connected⟩
              · rw [isRequest] at spared
                exact spared (fun _ => id) (fun _ _ => id) (fun _ => id) fun one isOther =>
                  ⟨fun _ granted => addressed (granted.1.symm.trans isOther),
                    fun granted => addressed (granted.1.symm.trans isOther)⟩
          | connect | changed | close =>
              rw [isRequest] at was
              exact was fun _ => id
    · rw [isClosed, ControlPlane.close] at held
      split at held
      · rename_i wasClosed
        simp [consistent.shut wasClosed] at held
      · simp at held
  · rw [others node here] at held
    exact known node other own held isReady openThere

theorem Transition.keeps_mutual (transition : Transition topology before action after)
    (authentic : Authentic topology before) (made : MadeForNodes topology before)
    (noDisconnect : action.NoDisconnect) (noCloses : before.NoCloses)
    (acknowledged : before.Acknowledged topology) (vouched : before.Vouched)
    (known : before.Mutual topology) : after.Mutual topology := by
  intro node other own held isReady openThere
  have wasOpen := transition.was_open authentic openThere
  obtain ⟨theirs, heldThere, connected⟩ := transition.mutual_before authentic made acknowledged
    vouched known held isReady wasOpen
  obtain ⟨later, isLater, succeeds⟩ := transition.persists authentic noDisconnect noCloses
    openThere heldThere
  exact ⟨later, isLater, succeeds.stays_connected connected⟩

end Steps

theorem mutual_of_reachable
    (reached : (controlSystem topology).Reachable (System.KeepsConnections topology) system) :
    system.Mutual topology := by
  let known (state : System Node) : Prop := Authentic topology state ∧ MadeForNodes topology state
  let property (state : System Node) : Prop := (state.NoCloses ∧ state.Acknowledged topology) ∧
    state.Vouched ∧ state.Mutual topology
  have knownReached : ∀ state, (controlSystem topology).Reachable
      (System.KeepsConnections topology) state → known state := fun _ reached' =>
    ⟨authentic_of_reachable (fun _ _ obeys => obeys.fresh) reached', madeForNodes_of_reachable
      (fun _ _ obeys => obeys.fresh) (fun _ _ obeys => obeys.advertised) reached'⟩
  have holds : property system := by
    refine reached.invariant_with knownReached (fun state isStart => ?_) ?_
    · rw [show state = System.start from isStart]
      refine ⟨⟨?_, ?_⟩, ?_, ?_⟩
      · simp [System.NoCloses, System.start]
      · simp [System.Acknowledged, System.start]
      · simp [System.Vouched, System.start]
      · simp [System.Mutual, System.start]
    · rintro before action after ⟨authentic, made⟩ _ ⟨⟨noCloses, acknowledged⟩, vouched,
        isMutual⟩ obeys taken
      have transition := authentic.transition obeys.fresh taken
      have noDisconnect := obeys.noDisconnect
      exact ⟨⟨transition.noCloses taken noDisconnect noCloses, transition.acknowledged authentic
          obeys.fresh taken noDisconnect noCloses acknowledged⟩,
        transition.vouched authentic noDisconnect noCloses vouched,
        transition.keeps_mutual authentic made noDisconnect noCloses acknowledged vouched
          isMutual⟩
  exact holds.2.2

/-- Without disconnects, every ready peer that dials an open node is heard of. -/
theorem heard_of_reachable {peer : Peer}
    (reached : (controlSystem topology).Reachable (System.KeepsConnections topology) system)
    (member : peer ∈ (system.engine node).control.readyPeers)
    (openThere : ∀ target, topology.endpoint target = peer.endpoint →
      (system.engine target).control.closed = false) : system.Heard topology node peer := by
  have authentic := authentic_of_reachable (fun _ _ obeys => obeys.fresh) reached
  have consistent := authentic.consistent node
  obtain ⟨isValue, isReady⟩ := List.mem_filter.mp member
  obtain ⟨key, held⟩ := OrderedDict.mem_values.mp isValue
  intro target dials
  have heldHere : (system.engine node).control.peers.get? (topology.endpoint target) =
      some peer := by
    rw [dials, (consistent.formed held).keyed held, held]
  obtain ⟨theirs, heldThere, connected⟩ := mutual_of_reachable reached node target peer heldHere
    (of_decide_eq_true isReady) (openThere target dials)
  obtain ⟨own, isOwn, known⟩ := ((compatible_of_reachable reached
    (consistent.open_of_held held) (openThere target dials)).2 theirs heldThere).resolve_left
      connected
  obtain rfl : own = peer := Option.some.inj (isOwn.symm.trans heldHere)
  exact ⟨theirs, heldThere, known⟩

/-- However many messages got lost, repeated, delayed or overtaken and whichever native calls
failed, a registration that then runs alone returns, with every ready peer up to date. -/
theorem registration_heals {env : Environment}
    (reached : (controlSystem topology).Reachable (System.KeepsConnections topology) system)
    (idle : (system.engine node).operation = none)
    (openHere : (system.engine node).control.closed = false)
    (openThere : ∀ peer ∈ (system.engine node).control.readyPeers, ∀ target,
      topology.endpoint target = peer.endpoint → (system.engine target).control.closed = false)
    (succeeds : env.Succeeds) :
    ∃ registration registered announced, env.registerLocalMemory = .ok registration ∧
      system.step topology (.registerLocalMemory node env) = some registered ∧
      registered.step topology (.publish node) = some announced ∧
      System.Completes topology (System.Unfailing topology) node (fun final =>
        (final.engine node).outcomes = (system.engine node).outcomes ++
          [.publish registration.metadata (.ok ())] ∧
        (final.engine node).control.memoryMetadata =
          (system.engine node).control.memoryMetadata ++ [registration.metadata] ∧
        ∀ peer ∈ (system.engine node).control.readyPeers, final.UpToDate topology node peer)
        announced := by
  obtain ⟨registration, registered, announced, answer, registers, publishes, completes⟩ :=
    registration_alone_completes (reached.mono fun _ _ obeys => ⟨obeys.fresh, obeys.advertised⟩)
      idle openHere succeeds
  refine ⟨registration, registered, announced, answer, registers, publishes,
    completes.mono fun final ended => ?_⟩
  obtain ⟨returned, upToDate⟩ := ended.returns fun peer member =>
    heard_of_reachable reached member (openThere peer member)
  exact ⟨returned, ended.listed, upToDate⟩

/-- The reply to the `Ready` of `alpha` gets lost, so that only `beta` is ready; it registers a
memory. -/
theorem registration_heals_pair : ∃ system announced : System Bool,
    (system.engine false).outcomes = [.connect "beta" (.error .rpcError)] ∧
    (system.engine true).control.readyPeers ≠ [] ∧
    System.Completes Topology.pair (System.Unfailing Topology.pair) true (fun final =>
      (final.engine true).control.memoryMetadata = [[7]] ∧
      ∀ peer ∈ (system.engine true).control.readyPeers, final.UpToDate Topology.pair true peer)
      announced := by
  have computed : ∃ system, (controlSystem Topology.pair).Reachable
      (System.KeepsConnections Topology.pair) system ∧
      (system.engine true).operation = none ∧
      (∀ node, (system.engine node).control.closed = false) ∧
      (system.engine true).control.memoryMetadata = [] ∧
      (system.engine false).outcomes = [.connect "beta" (.error .rpcError)] ∧
      (system.engine true).control.readyPeers ≠ [] :=
    LabelledSystem.exists_reachable (.initial rfl)
      [.connect false "beta" (.naming 1 "a1"), .handle 0 (.naming 1 "b1"), .resume false 0 .idle,
        .handle 1 (.naming 2 "b2"), .timeout false]
      (by decide)
  obtain ⟨system, reached, idle, opened, unlisted, outcomes, ready⟩ := computed
  obtain ⟨registration, _, announced, answer, _, _, completes⟩ := registration_heals reached idle
    (opened true) (fun _ _ target _ => opened target)
    (show (Environment.naming 7 "").Succeeds by decide)
  obtain rfl : ⟨7, [7]⟩ = registration := Except.ok.inj answer
  refine ⟨system, announced, outcomes, ready, completes.mono fun final ended => ?_⟩
  exact ⟨by rw [ended.2.1, unlisted]; rfl, ended.2.2⟩

end Rdma101
