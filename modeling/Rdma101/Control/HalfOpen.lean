/-
Module: Rdma101.Control.HalfOpen
Purpose: Half-open peers.  Runs in which every offer is timely leave none behind; a run with one
  offer that comes after its sender's disconnect leaves one.
Trusted boundary: none
Main exports: returned_ready, no_half_open_peer, late_offer_leaves_half_open_peer
-/
import Rdma101.Control.ReadyPeers

namespace Rdma101

open Wire ControlPlane Session

variable {Node : Type} {topology : Topology Node}

/-- A timely offer is timely in the session of its two nodes. -/
theorem TimelyOffer.timely {before : System Node} {node other : Node} {call : Nat}
    {rpc : Rpc Node} (authentic : Authentic topology before) (waiting : before.Waiting)
    (made : MadeForNodes topology before) (found : before.rpcs[call]? = some rpc)
    (unanswered : rpc.answers = []) (reached : topology.resolve rpc.endpoint = some node)
    (isCaller : rpc.caller = other) (timely : before.TimelyRpc node rpc) :
    AcceptsAt Rules.timely topology before node other := by
  subst isCaller
  intro theirs offering
  obtain ⟨operation, running, isCall⟩ := waiting.waits call rpc found unanswered
  obtain ⟨_, isEndpoint⟩ := authentic.addressed made found reached
  have isAuthentic := authentic.operations rpc.caller operation running
  rw [Engine.sideTo_running running] at offering
  cases operation with
  | offering peer number =>
      obtain rfl : number = call := by simpa [Operation.call?] using isCall
      obtain ⟨_, isRequest⟩ := isAuthentic.request isCall found
      have origin := (authentic.named waiting found).2
      obtain rfl : peer.connectionId = theirs := by
        simp only [Operation.callTo] at offering
        split at offering
        · rw [Option.some.injEq, Call.offering.injEq] at offering
          exact offering.1
        · simp at offering
      rw [System.TimelyRpc, isRequest] at timely
      simp only [isRequest, Request.connection] at origin
      rcases timely with ⟨entry, held, joined⟩ | ⟨offered, held, sameId, free⟩
      · refine .inl ⟨entry.link, linkTo_of_get? (origin ▸ held), by simp [Peer.link, joined]⟩
      · refine .inr ⟨offered.link, linkTo_of_get? (isEndpoint ▸ held), sameId, ?_⟩
        rcases free with unconnected | ⟨entry, entryHeld, connected⟩
        · exact .inl (by simp [Peer.link, unconnected])
        · by_cases unconnected : offered.state = .created
          · exact .inl (by simp [Peer.link, unconnected])
          · exact .inr ⟨entry.link, linkTo_of_get? (origin ▸ entryHeld), by
              simp [Peer.link, unconnected, connected]⟩
  | registered => simp [Operation.callTo] at offering
  | updating => simp only [Operation.callTo] at offering; split at offering <;> simp at offering
  | notifying => simp [Operation.callTo] at offering
  | closing => simp only [Operation.callTo] at offering; split at offering <;> simp at offering

variable [DecidableEq Node]

/-- Only calls of `connect` that succeeded return a handle. -/
theorem Outcome.Returns.eq {handle : Handle} {outcome : Outcome}
    (returns : outcome.Returns handle) : ∃ endpoint, outcome = .connect endpoint (.ok handle) := by
  cases outcome with
  | connect endpoint result =>
      cases result with
      | ok returned => exact ⟨endpoint, by rw [show returned = handle from returns]⟩
      | error => exact returns.elim
  | register => exact returns.elim
  | publish => exact returns.elim
  | disconnect => exact returns.elim

/-- What an operation ended with was sound when it ended. -/
theorem Transition.outcomes {before after : System Node} {action : Action Node}
    (transition : Transition topology before action after) {node : Node} {outcome : Outcome}
    (member : outcome ∈ (after.engine node).outcomes) :
    outcome ∈ (before.engine node).outcomes ∨ outcome.Sound (after.engine node).control := by
  cases transition with
  | @ended _ actor grant control ended entitled effects sound =>
      rw [System.setEngine_engine] at member ⊢
      split
      · rename_i here
        rw [if_pos here] at member
        rcases List.mem_append.mp member with old | new
        · exact .inl (here ▸ old)
        · exact .inr (List.mem_singleton.mp new ▸ sound)
      · rename_i elsewhere
        rw [if_neg elsewhere] at member
        exact .inl member
  | @registered actor =>
      rw [System.setEngine_engine] at member
      split at member <;> simp_all [Engine.proceed]
  | @sent _ actor =>
      rw [System.send_engine, System.setEngine_engine] at member
      split at member <;> simp_all [Engine.proceed]
  | @handled _ _ _ target =>
      rw [System.answer_engine, System.setEngine_engine] at member
      split at member <;> simp_all
  | @closed actor =>
      rw [System.setEngine_engine] at member
      split at member <;> simp_all

/-- A handle that `connect` returned is that of an object that was made, and is ready as long as
the table holds it. -/
def ReturnedReady (system : System Node) : Prop :=
  ∀ node endpoint handle, .connect endpoint (.ok handle) ∈ (system.engine node).outcomes →
    (∃ origin ∈ (system.engine node).control.created,
        origin.handle = handle ∧ origin.endpoint = endpoint) ∧
      ∀ key peer, (system.engine node).control.peers.get? key = some peer →
        peer.handle = handle → peer.state = .ready

theorem Transition.returnedReady {before after : System Node} {action : Action Node}
    (transition : Transition topology before action after)
    (authentic : Authentic topology before) (later : Authentic topology after)
    (holds : ReturnedReady before) : ReturnedReady after := by
  intro node endpoint handle member
  rcases transition.outcomes member with old | sound
  · obtain ⟨⟨origin, made, sameHandle, sameEndpoint⟩, isReady⟩ := holds node endpoint handle old
    have grows := transition.grows authentic.consistent
    refine ⟨⟨origin, grows.created made, sameHandle, sameEndpoint⟩,
      fun key peer held isHandle => ?_⟩
    obtain ⟨env, grant, _, evolves⟩ := grows.evolves node
    rcases evolves.origin held with ⟨earlier, earlierHeld, succeeds⟩ | ⟨_, _, unused⟩
    · have wasReady := isReady key earlier earlierHeld
        (succeeds.sameObject.handle.symm.trans isHandle)
      have rank := succeeds.rank
      cases isState : peer.state <;> simp_all [PeerState.rank]
    · exact absurd (sameHandle.trans isHandle.symm) (unused origin made)
  · obtain ⟨peer, held, isHandle, isReady⟩ := sound
    have formed := (later.consistent node).formed held
    obtain ⟨origin, made, sameObject⟩ := formed.fromCreated held
    refine ⟨⟨origin, made, sameObject.handle.trans isHandle,
        sameObject.endpoint.trans (formed.keyed held)⟩, fun key other otherHeld same => ?_⟩
    obtain rfl := formed.handle_injective otherHeld held (same.trans isHandle.symm)
    obtain rfl : other = peer := by simpa [held] using otherHeld.symm
    exact isReady

theorem returned_ready {allowed : System Node → Action Node → Prop}
    (fresh : ∀ system action, allowed system action → system.FreshNames topology action)
    {system : System Node} (reached : (controlSystem topology).Reachable allowed system) :
    ReturnedReady system := by
  refine reached.invariant_with (fun _ => authentic_of_reachable fresh)
    (fun state isStart => ?_) ?_
  · rw [show state = System.start from isStart]
    intro node endpoint handle member
    simp [System.start] at member
  · intro before action after authentic later holds obeys taken
    exact (authentic.transition (fresh before action obeys) taken).returnedReady authentic later
      holds

/-- What holds of two parties when every offer is timely. -/
structure Answered (near far : Side String Bytes) : Prop where
  orderly : Orderly near far
  counterpart : Counterpart near.link far.link far.call

theorem Answered.act {near far near' far' : Side String Bytes}
    (act : Act Rules.timely near far near' far') (nearHolds : Answered near far)
    (farHolds : Answered far near) : Answered near' far' ∧ Answered far' near' := by
  have orderly := act.orderly nearHolds.orderly farHolds.orderly
  exact ⟨⟨orderly.1, act.counterpart_near nearHolds.orderly farHolds.orderly
      nearHolds.counterpart farHolds.counterpart⟩,
    orderly.2, act.counterpart_far nearHolds.orderly farHolds.orderly
      nearHolds.counterpart farHolds.counterpart⟩

/-- No half-open peer at rest: when every offer is timely, a peer that has left `CREATED` has a
live counterpart that is connected back. -/
theorem no_half_open_peer {system : System Node}
    (reached : (controlSystem topology).Reachable (fun system action =>
      system.Undisturbed topology action ∧ system.ReturnedHandles action ∧
        system.OffersTimely topology action) system)
    (rest : ∀ node, (system.engine node).operation = none) {node : Node} {endpoint : String}
    {peer : Peer} (held : (system.engine node).control.peers.get? endpoint = some peer)
    (joined : peer.state ≠ .created) :
    ∃ other theirs, peer.endpoint = topology.endpoint other ∧
      (system.engine other).control.peers.get? (topology.endpoint node) = some theirs ∧
      theirs.connectionId = peer.remoteConnectionId ∧ theirs.state ≠ .created ∧
      theirs.remoteConnectionId = peer.connectionId := by
  have undisturbed : ∀ (system : System Node) (action : Action Node),
      (system.Undisturbed topology action ∧ system.ReturnedHandles action ∧
        system.OffersTimely topology action) → system.Undisturbed topology action :=
    fun _ _ obeys => obeys.1
  have fresh : ∀ (system : System Node) (action : Action Node),
      (system.Undisturbed topology action ∧ system.ReturnedHandles action ∧
        system.OffersTimely topology action) → system.FreshNames topology action :=
    fun _ _ obeys => obeys.1.fresh
  have advertised : ∀ (system : System Node) (action : Action Node),
      (system.Undisturbed topology action ∧ system.ReturnedHandles action ∧
        system.OffersTimely topology action) → System.DialsAdvertised topology action :=
    fun _ _ obeys => obeys.1.advertised
  have formed := ((authentic_of_reachable fresh reached).consistent node).formed held
  obtain ⟨origin, member, sameObject⟩ := formed.fromCreated held
  obtain ⟨other, different, isEndpoint⟩ :=
    madeForNodes_of_reachable fresh advertised reached node origin member
  rw [sameObject.endpoint] at isEndpoint
  have answered := views_of_reachable Rules.timely undisturbed
    ⟨.start, by constructor <;> simp⟩ Answered.act
    (fun state action earlier ⟨calm, returns, timely⟩ one another _ => ?_) reached different.symm
  · have heldThere : (system.engine node).control.peers.get? (topology.endpoint other) =
        some peer := by
      rw [← isEndpoint, formed.keyed held, held]
    have link := linkTo_of_get? heldThere
    obtain ⟨theirs, isTheirs, isRemote, back⟩ := answered.counterpart.at_rest
      (by simp [System.view, Engine.sideTo_idle (rest other)]) link
      (formed.link_remote held fun empty => joined ((formed.named held).mpr empty)).2
    obtain ⟨entry, entryHeld, rfl⟩ := get?_of_linkTo isTheirs
    obtain ⟨joinedBack, sameId⟩ : entry.state ≠ .created ∧
        entry.remoteConnectionId = peer.connectionId := by
      simpa [Peer.link] using back
    exact ⟨other, entry, isEndpoint, entryHeld, isRemote, joinedBack, sameId⟩
  · constructor
    · rintro handle env entry rfl entryHeld isHandle
      obtain ⟨outcome, member, isReturned⟩ := returns
      obtain ⟨dialed, rfl⟩ := isReturned.eq
      have isReady := (returned_ready fresh earlier one dialed handle member).2 _ entry entryHeld
        isHandle
      simp [Peer.link, isReady]
    · rintro call env rpc rfl found goesHere isCaller
      exact TimelyOffer.timely (authentic_of_reachable fresh earlier)
        (waiting_of_reachable undisturbed earlier)
        (madeForNodes_of_reachable fresh advertised earlier) found
        (calm.reliable rpc (by simp [found])) goesHere isCaller
        (timely rpc (by simp [found]) one (by simp [goesHere]))

theorem no_half_open_peer_pair : ∃ (system : System Bool) (other : Bool) (peer theirs : Peer),
    (system.engine false).control.peers.get? "beta" = some peer ∧
    peer.endpoint = Topology.pair.endpoint other ∧
    (system.engine other).control.peers.get? (Topology.pair.endpoint false) = some theirs ∧
    theirs.connectionId = peer.remoteConnectionId ∧ theirs.state ≠ .created ∧
    theirs.remoteConnectionId = peer.connectionId := by
  have computed : ∃ system, (controlSystem Topology.pair).Reachable (fun system action =>
      system.Undisturbed Topology.pair action ∧ system.ReturnedHandles action ∧
        system.OffersTimely Topology.pair action) system ∧
      (∀ node, (system.engine node).operation = none) ∧
      ∃ peer ∈ (system.engine false).control.peers.get? "beta", peer.state ≠ .created :=
    LabelledSystem.exists_reachable (.initial rfl) connectAndRegister (by decide)
  obtain ⟨system, reached, rest, peer, held, joined⟩ := computed
  obtain ⟨other, theirs, counterpart⟩ := no_half_open_peer reached rest held joined
  exact ⟨system, other, peer, theirs, held, counterpart⟩

/-- A connection is made, closed and, by an offer that the other node sent meanwhile and that
comes late, half made again. -/
def lateOffer : List (Action Bool) :=
  [.connect false "beta" (.naming 1 "a1"), .handle 0 (.naming 1 "b1"), .resume false 0 .idle,
    .connect true "alpha" (.naming 2 "b2"), .handle 1 (.naming 2 "b2"), .resume false 0 .idle,
    .disconnect false 1 .idle, .handle 3 (.naming 2 "b2"), .resume false 0 .idle,
    .handle 2 (.naming 2 "a2"), .resume true 0 .idle]

/-- An offer that comes after its sender's peer was destroyed leaves a half-open peer. -/
theorem late_offer_leaves_half_open_peer : ∃ system : System Bool,
    (controlSystem Topology.pair).Reachable (fun system action =>
      system.Undisturbed Topology.pair action ∧ system.ReturnedHandles action) system ∧
    (∀ node, (system.engine node).operation = none) ∧ (∀ rpc ∈ system.rpcs, rpc.answers ≠ []) ∧
    ∃ peer ∈ (system.engine false).control.peers.get? "beta", peer.state ≠ .created ∧
      ¬∃ theirs ∈ (system.engine true).control.peers.get? "alpha",
        theirs.connectionId = peer.remoteConnectionId ∧
        theirs.remoteConnectionId = peer.connectionId :=
  LabelledSystem.exists_reachable (.initial rfl) lateOffer (by decide)

end Rdma101
