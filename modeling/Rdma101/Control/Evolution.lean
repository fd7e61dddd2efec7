/-
Module: Rdma101.Control.Evolution
Purpose: What a sequence of effects preserves and how it moves the peers of a table: a peer
  object keeps its identity, its remote id is written once, its state and version only grow,
  and a peer that no granted change is about stays as it is.
Trusted boundary: none
Main exports: Peer.Succeeds, Evolves, Effects.evolves, Effects.spares, Effects.spares_calls,
  Effects.wired
-/
import Rdma101.Control.Effects

namespace Rdma101

open Wire ControlPlane

/-- The position of a state on the way from `CREATED` to `READY`. -/
def PeerState.rank : PeerState → Nat
  | .created => 0
  | .connected => 1
  | .ready => 2

/-- `later` is a later state of the peer object `earlier`. -/
@[mk_iff, grind cases]
structure Peer.Succeeds (earlier later : Peer) : Prop where
  sameObject : later.SameObject earlier
  remote : earlier.remoteConnectionId ≠ "" →
    later.remoteConnectionId = earlier.remoteConnectionId
  rank : earlier.state.rank ≤ later.state.rank
  version : earlier.remoteVersion ≤ later.remoteVersion

attribute [grind =] Peer.succeeds_iff

theorem Peer.Succeeds.refl (peer : Peer) : peer.Succeeds peer :=
  ⟨.refl peer, fun _ => rfl, Nat.le_refl _, Int.le_refl _⟩

theorem Peer.Succeeds.trans {first second third : Peer} (left : first.Succeeds second)
    (right : second.Succeeds third) : first.Succeeds third where
  sameObject := right.sameObject.trans left.sameObject
  remote := fun named => by
    have kept := left.remote named
    rw [right.remote (by rw [kept]; exact named), kept]
  rank := Nat.le_trans left.rank right.rank
  version := Int.le_trans left.version right.version

/-- The ways a control plane moves: it does not reopen, its lists only grow while it is open,
and every peer of the table is a later state of the one that was there, or was made with the id
drawn now. -/
structure Evolves (env : Environment) (grant : Grant) (before after : ControlPlane) : Prop where
  opened : after.closed = false → before.closed = false
  memories : after.closed = false → before.memoryMetadata <+: after.memoryMetadata
  created : before.created <+: after.created
  origin : ∀ {endpoint peer}, after.peers.get? endpoint = some peer →
    (∃ earlier, before.peers.get? endpoint = some earlier ∧ earlier.Succeeds peer) ∨
      (grant.creates endpoint ∧ peer.connectionId = env.uuid4 ∧
        ∀ other ∈ before.created, other.handle ≠ peer.handle)

theorem Evolves.refl (env : Environment) (grant : Grant) (control : ControlPlane) :
    Evolves env grant control control where
  opened := id
  memories := fun _ => List.prefix_rfl
  created := List.prefix_rfl
  origin := fun held => .inl ⟨_, held, .refl _⟩

theorem Evolves.trans {env : Environment} {grant : Grant} {first second third : ControlPlane}
    (left : Evolves env grant first second) (right : Evolves env grant second third) :
    Evolves env grant first third where
  opened := fun isOpen => left.opened (right.opened isOpen)
  memories := fun isOpen => (left.memories (right.opened isOpen)).trans (right.memories isOpen)
  created := left.created.trans right.created
  origin := by
    intro endpoint peer held
    rcases right.origin held with ⟨middle, middleHeld, succeeds⟩ | ⟨granted, sameId, unused⟩
    · rcases left.origin middleHeld with
        ⟨earlier, earlierHeld, succeeded⟩ | ⟨granted, sameId, unused⟩
      · exact .inl ⟨earlier, earlierHeld, succeeded.trans succeeds⟩
      · exact .inr ⟨granted, succeeds.sameObject.connectionId.trans sameId,
          by rw [succeeds.sameObject.handle]; exact unused⟩
    · exact .inr ⟨granted, sameId, fun other member => unused other (left.created.subset member)⟩

/-- A change that leaves the table alone. -/
theorem Evolves.of_peers {env : Environment} {grant : Grant} {before after : ControlPlane}
    (samePeers : after.peers = before.peers) (sameClosed : after.closed = before.closed)
    (sameCreated : after.created = before.created)
    (grown : before.memoryMetadata <+: after.memoryMetadata) :
    Evolves env grant before after where
  opened := fun isOpen => sameClosed ▸ isOpen
  memories := fun _ => grown
  created := sameCreated ▸ List.prefix_rfl
  origin := fun held => .inl ⟨_, samePeers ▸ held, .refl _⟩

/-- A change of one peer object of the table. -/
theorem Evolves.of_store {env : Environment} {grant : Grant} {before after : ControlPlane}
    {peer later : Peer}
    (held : before.peers.get? peer.endpoint = some peer)
    (stored : after.peers = before.peers.set peer.endpoint later)
    (succeeds : peer.Succeeds later)
    (sameClosed : after.closed = before.closed) (sameCreated : after.created = before.created)
    (sameMemories : after.memoryMetadata = before.memoryMetadata) :
    Evolves env grant before after where
  opened := fun isOpen => sameClosed ▸ isOpen
  memories := fun _ => sameMemories ▸ List.prefix_rfl
  created := sameCreated ▸ List.prefix_rfl
  origin := by
    intro key found isFound
    rw [stored, OrderedDict.get?_set] at isFound
    by_cases here : key = peer.endpoint
    · simp only [here, if_true, Option.some.injEq] at isFound
      exact .inl ⟨peer, here ▸ held, isFound ▸ succeeds⟩
    · rw [if_neg here] at isFound
      exact .inl ⟨found, isFound, .refl found⟩

theorem Effect.evolves {env : Environment} {grant : Grant} {before after : ControlPlane}
    (effect : Effect env grant before after) (consistent : before.Consistent) :
    Evolves env grant before after := by
  cases effect with
  | @addPeer fresh endpoint isOpen answer absent unused nonempty granted =>
      refine ⟨id, fun _ => List.prefix_rfl, List.prefix_append _ _, ?_⟩
      intro key peer held
      simp only [addPeer_peers, OrderedDict.get?_set] at held
      by_cases here : key = endpoint
      · have isFresh : freshPeer fresh endpoint env.uuid4 = peer := by
          simpa [here, freshPeer] using held
        exact .inr ⟨here ▸ granted, isFresh ▸ rfl,
          fun other member => isFresh ▸ unused other member⟩
      · have elsewhere : key ≠ (freshPeer fresh endpoint env.uuid4).endpoint := here
        rw [if_neg elsewhere] at held
        exact .inl ⟨peer, held, .refl peer⟩
  | @joinPeer peer offer held unconnected addressed named granted =>
      have unnamed := ((consistent.formed held).named held).mp unconnected
      refine .of_store held (joinPeer_peers _ _ _) ⟨⟨rfl, rfl, rfl, rfl⟩,
        fun isNamed => absurd unnamed isNamed, ?_, Int.le_refl _⟩ rfl rfl rfl
      simp [unconnected, PeerState.rank]
  | joinFailed held unconnected answer granted => exact .of_peers rfl rfl rfl List.prefix_rfl
  | deliver held joined stale granted => exact .of_peers rfl rfl rfl List.prefix_rfl
  | importAll held joined newer granted =>
      exact .of_store held (storePeer_peers _ _) ⟨⟨rfl, rfl, rfl, rfl⟩, fun _ => rfl,
        Nat.le_refl _, Int.le_of_lt newer⟩ rfl rfl rfl
  | importPart held joined newer split failed granted =>
      exact .of_peers rfl rfl rfl List.prefix_rfl
  | @markReady peer held joined granted =>
      refine .of_store held (storePeer_peers _ _) ⟨⟨rfl, rfl, rfl, rfl⟩, fun _ => rfl, ?_,
        Int.le_refl _⟩ rfl rfl rfl
      cases peer.state <;> simp [PeerState.rank]
  | @dropPeer peer held granted =>
      refine ⟨id, fun _ => List.prefix_rfl, List.prefix_rfl, ?_⟩
      intro key found isFound
      rw [dropPeer_peers, OrderedDict.get?_erase] at isFound
      split at isFound
      · simp at isFound
      · exact .inl ⟨found, isFound, .refl found⟩
  | dropFailed held answer granted => exact .of_peers rfl rfl rfl List.prefix_rfl
  | append isOpen granted => exact .of_peers rfl rfl rfl (List.prefix_append _ _)
  | register registration isOpen granted => exact .of_peers rfl rfl rfl List.prefix_rfl

theorem Effects.evolves {env : Environment} {grant : Grant} {before after : ControlPlane}
    (effects : Effects env grant before after) (consistent : before.Consistent) :
    Evolves env grant before after := by
  induction effects with
  | refl => exact .refl env grant before
  | tail earlier effect inductionHypothesis =>
      exact inductionHypothesis.trans (effect.evolves (Effects.consistent earlier consistent))

theorem ControlPlane.close_evolves (env : Environment) (grant : Grant)
    (control : ControlPlane) : Evolves env grant control control.close := by
  cases isClosed : control.closed with
  | true => simpa [ControlPlane.close, isClosed] using Evolves.refl env grant control
  | false =>
      refine ⟨fun _ => isClosed, fun isOpen => ?_, ?_, fun held => ?_⟩
      · simp [ControlPlane.close, isClosed] at isOpen
      · simp [ControlPlane.close, isClosed]
      · simp [ControlPlane.close, isClosed] at held

/-- No section closes a control plane. -/
theorem Effects.closed {env : Environment} {grant : Grant} {before after : ControlPlane}
    (effects : Effects env grant before after) : after.closed = before.closed := by
  induction effects with
  | refl => rfl
  | tail _ effect inductionHypothesis => cases effect <;> exact inductionHypothesis

/-- A section makes at most one peer, under a key it may create, with the id drawn now. -/
theorem Effects.created_cases {env : Environment} {grant : Grant} {before after : ControlPlane}
    (effects : Effects env grant before after) :
    after.created = before.created ∨
      ∃ fresh endpoint, env.createPeer = .ok fresh ∧ grant.creates endpoint ∧
        after.created = before.created ++ [freshPeer fresh endpoint env.uuid4] := by
  induction effects with
  | refl => exact .inl rfl
  | @tail middle last earlier effect inductionHypothesis =>
      cases effect with
      | @addPeer fresh endpoint isOpen answer absent unused nonempty granted =>
          rcases inductionHypothesis with same | ⟨fresh', endpoint', answer', _, grown⟩
          · exact .inr ⟨fresh, endpoint, answer, granted, by simp [same]⟩
          · -- A second peer of the section would have the handle of the first.
            have sameFresh : fresh' = fresh := by simpa [answer] using answer'.symm
            exact absurd (by simp [freshPeer, sameFresh])
              (unused (freshPeer fresh' endpoint' env.uuid4) (by simp [grown]))
      | joinPeer => exact inductionHypothesis
      | joinFailed => exact inductionHypothesis
      | deliver => exact inductionHypothesis
      | importAll => exact inductionHypothesis
      | importPart => exact inductionHypothesis
      | markReady => exact inductionHypothesis
      | dropPeer => exact inductionHypothesis
      | dropFailed => exact inductionHypothesis
      | append => exact inductionHypothesis
      | register => exact inductionHypothesis

/-- The peers that a predicate on peer objects and offers admits: every connected peer was
connected natively to an admitted offer that names the peer's endpoint and remote id. -/
def Wired (admits : Peer → Offer → Prop) (control : ControlPlane) : Prop :=
  ∀ endpoint peer, control.peers.get? endpoint = some peer → peer.state ≠ .created →
    ∃ offer, admits peer offer ∧ offer.connection.id = peer.remoteConnectionId ∧
      offer.connection.endpoint = peer.endpoint ∧
      control.native.connected.get? peer.handle = some offer.metadata ∧
      .connectPeer peer.handle offer.metadata true ∈ control.native.calls

/-- What an object may be connected to does not depend on its mutable attributes. -/
def PerObject (admits : Peer → Offer → Prop) : Prop :=
  ∀ peer other offer, other.SameObject peer → admits peer offer → admits other offer

theorem Wired.of_peers {admits : Peer → Offer → Prop} {before after : ControlPlane}
    (wired : Wired admits before) (samePeers : after.peers = before.peers)
    (sameConnected : after.native.connected = before.native.connected)
    (grown : before.native.calls ⊆ after.native.calls) : Wired admits after := by
  intro key peer held joined
  obtain ⟨offer, admitted, sameId, sameEndpoint, isConnected, called⟩ :=
    wired key peer (samePeers ▸ held) joined
  exact ⟨offer, admitted, sameId, sameEndpoint, sameConnected ▸ isConnected, grown called⟩

theorem Wired.of_store {admits : Peer → Offer → Prop} {before after : ControlPlane}
    {peer later : Peer} (wired : Wired admits before) (perObject : PerObject admits)
    (held : before.peers.get? peer.endpoint = some peer) (isJoined : peer.state ≠ .created)
    (stored : after.peers = before.peers.set peer.endpoint later)
    (sameConnected : after.native.connected = before.native.connected)
    (grown : before.native.calls ⊆ after.native.calls)
    (sameObject : later.SameObject peer)
    (sameRemote : later.remoteConnectionId = peer.remoteConnectionId) : Wired admits after := by
  intro key found isFound joined
  rw [stored, OrderedDict.get?_set] at isFound
  by_cases here : key = peer.endpoint
  · simp only [here, if_true, Option.some.injEq] at isFound
    subst isFound
    obtain ⟨offer, admitted, sameId, sameEndpoint, isConnected, called⟩ :=
      wired _ _ held isJoined
    refine ⟨offer, perObject _ _ _ sameObject admitted, sameId.trans sameRemote.symm,
      sameEndpoint.trans sameObject.endpoint.symm, ?_, ?_⟩
    · rw [sameConnected, sameObject.handle, isConnected]
    · rw [sameObject.handle]
      exact grown called
  · rw [if_neg here] at isFound
    obtain ⟨offer, admitted, sameId, sameEndpoint, isConnected, called⟩ :=
      wired key found isFound joined
    exact ⟨offer, admitted, sameId, sameEndpoint, sameConnected ▸ isConnected, grown called⟩

theorem NativeEngine.subset_importAll_calls (native : NativeEngine) (handle : Handle)
    (memories : List Bytes) : native.calls ⊆ (native.importAll handle memories).calls := by
  rw [NativeEngine.importAll_calls]
  exact List.subset_append_left _ _

theorem Effect.wired {env : Environment} {grant : Grant} {before after : ControlPlane}
    {admits : Peer → Offer → Prop} (effect : Effect env grant before after)
    (consistent : before.Consistent) (wired : Wired admits before) (perObject : PerObject admits)
    (granted : ∀ peer offer, grant.offers peer offer → admits peer offer) :
    Wired admits after := by
  cases effect with
  | @addPeer fresh endpoint isOpen answer absent unused nonempty creates =>
      intro key peer held joined
      have isOld : before.peers.get? key = some peer := by
        grind [addPeer_peers, freshPeer]
      obtain ⟨offer, admitted, sameId, sameEndpoint, isConnected, called⟩ :=
        wired key peer isOld joined
      exact ⟨offer, admitted, sameId, sameEndpoint, isConnected,
        List.mem_append_left _ called⟩
  | @joinPeer peer offer held unconnected addressed named offers =>
      intro key found isFound joined
      simp only [joinPeer_peers, OrderedDict.get?_set] at isFound
      by_cases here : key = peer.endpoint
      · simp only [here, if_true, Option.some.injEq] at isFound
        subst isFound
        exact ⟨offer, perObject peer _ _ ⟨rfl, rfl, rfl, rfl⟩ (granted _ _ offers), rfl,
          addressed, OrderedDict.get?_set_self _ _ _, List.mem_append_right _ (by simp)⟩
      · rw [if_neg here] at isFound
        have other : found.handle ≠ peer.handle := fun same =>
          here ((consistent.formed held).handle_injective isFound held same)
        obtain ⟨old, admitted, sameId, sameEndpoint, isConnected, called⟩ :=
          wired _ _ isFound joined
        exact ⟨old, admitted, sameId, sameEndpoint, by simp [other, isConnected],
          List.mem_append_left _ called⟩
  | joinFailed => exact Wired.of_peers wired rfl rfl (List.subset_append_left _ _)
  | deliver => exact wired
  | @importAll peer snapshot held joined newer imports =>
      exact Wired.of_store wired perObject held joined (storePeer_peers _ _) (by simp)
        (NativeEngine.subset_importAll_calls _ _ _) ⟨rfl, rfl, rfl, rfl⟩ rfl
  | importPart held joined newer split failed imports =>
      exact Wired.of_peers wired rfl (by simp)
        (List.Subset.trans (NativeEngine.subset_importAll_calls _ _ _)
          (List.subset_append_left _ _))
  | markReady held joined readies =>
      exact Wired.of_store wired perObject held joined (storePeer_peers _ _) rfl
        (List.Subset.refl _) ⟨rfl, rfl, rfl, rfl⟩ rfl
  | @dropPeer peer held destroys =>
      intro key found isFound joined
      rw [dropPeer_peers, OrderedDict.get?_erase] at isFound
      split at isFound
      · simp at isFound
      · rename_i here
        have other : found.handle ≠ peer.handle := fun same =>
          here ((consistent.formed held).handle_injective isFound held same)
        obtain ⟨old, admitted, sameId, sameEndpoint, isConnected, called⟩ :=
          wired _ _ isFound joined
        exact ⟨old, admitted, sameId, sameEndpoint, by simp [other, isConnected],
          List.mem_append_left _ called⟩
  | dropFailed => exact Wired.of_peers wired rfl rfl (List.subset_append_left _ _)
  | append => exact wired
  | register => exact wired

/-- Sections that are granted admitted offers only keep the peers wired to admitted offers. -/
theorem Effects.wired {env : Environment} {grant : Grant} {before after : ControlPlane}
    {admits : Peer → Offer → Prop} (effects : Effects env grant before after)
    (consistent : before.Consistent) (wired : Wired admits before) (perObject : PerObject admits)
    (granted : ∀ peer offer, grant.offers peer offer → admits peer offer) :
    Wired admits after := by
  induction effects with
  | refl => exact wired
  | tail earlier effect inductionHypothesis =>
      exact effect.wired (Effects.consistent earlier consistent) inductionHypothesis perObject
        granted

/-- The grant is not about this peer. -/
structure Grant.Spares (grant : Grant) (peer : Peer) : Prop where
  offers : ∀ offer, ¬grant.offers peer offer
  imports : ∀ snapshot, ¬grant.imports peer snapshot
  readies : ¬grant.readies peer
  destroys : ¬grant.destroys peer

/-- A peer that the grant is not about stays in the table as it is, with its imports. -/
theorem Effects.spares {env : Environment} {grant : Grant} {before after : ControlPlane}
    {peer : Peer} (effects : Effects env grant before after) (consistent : before.Consistent)
    (held : before.peers.get? peer.endpoint = some peer) (spared : grant.Spares peer) :
    after.peers.get? peer.endpoint = some peer ∧
      ∀ metadata, (peer.handle, metadata) ∈ after.native.imports ↔
        (peer.handle, metadata) ∈ before.native.imports := by
  induction effects with
  | refl => exact ⟨held, fun _ => Iff.rfl⟩
  | @tail middle last earlier effect inductionHypothesis =>
      obtain ⟨stillHeld, sameImports⟩ := inductionHypothesis
      have formed := (Effects.consistent earlier consistent).formed stillHeld
      -- Any entry that the effect is about sits under another key and has another handle.
      have elsewhere : ∀ other, middle.peers.get? other.endpoint = some other → other ≠ peer →
          peer.endpoint ≠ other.endpoint ∧ peer.handle ≠ other.handle := by
        intro other otherHeld different
        have keys : peer.endpoint ≠ other.endpoint := fun same =>
          different (by simpa [← same, stillHeld] using otherHeld.symm)
        exact ⟨keys, fun same => keys (formed.handle_injective stillHeld otherHeld same)⟩
      cases effect with
      | @addPeer fresh endpoint isOpen answer absent =>
          have other : peer.endpoint ≠ endpoint := fun same => by simp [← same, stillHeld] at absent
          exact ⟨by simpa [freshPeer, other] using stillHeld, by simpa using sameImports⟩
      | joinPeer otherHeld unconnected addressed named granted =>
          obtain ⟨keys, _⟩ := elsewhere _ otherHeld fun same => spared.offers _ (same ▸ granted)
          exact ⟨by simpa [keys] using stillHeld, by simpa using sameImports⟩
      | joinFailed => exact ⟨stillHeld, sameImports⟩
      | deliver => exact ⟨stillHeld, sameImports⟩
      | importAll otherHeld joined newer granted =>
          obtain ⟨keys, handles⟩ :=
            elsewhere _ otherHeld fun same => spared.imports _ (same ▸ granted)
          refine ⟨by simpa [keys] using stillHeld, fun metadata => ?_⟩
          simpa [NativeEngine.mem_importAll_imports, handles] using sameImports metadata
      | importPart otherHeld joined newer split failed granted =>
          obtain ⟨keys, handles⟩ :=
            elsewhere _ otherHeld fun same => spared.imports _ (same ▸ granted)
          refine ⟨stillHeld, fun metadata => ?_⟩
          simpa [NativeEngine.record, NativeEngine.mem_importAll_imports, handles] using
            sameImports metadata
      | markReady otherHeld joined granted =>
          obtain ⟨keys, _⟩ := elsewhere _ otherHeld fun same => spared.readies (same ▸ granted)
          exact ⟨by simpa [keys] using stillHeld, sameImports⟩
      | dropPeer otherHeld granted =>
          obtain ⟨keys, handles⟩ :=
            elsewhere _ otherHeld fun same => spared.destroys (same ▸ granted)
          refine ⟨by simpa [keys] using stillHeld, fun metadata => ?_⟩
          simpa [handles] using sameImports metadata
      | dropFailed => exact ⟨stillHeld, sameImports⟩
      | append => exact ⟨stillHeld, sameImports⟩
      | register => exact ⟨stillHeld, sameImports⟩

/-- No native call is made on a peer that the grant is not about. -/
theorem Effects.spares_calls {env : Environment} {grant : Grant} {before after : ControlPlane}
    {peer : Peer} (effects : Effects env grant before after) (consistent : before.Consistent)
    (held : before.peers.get? peer.endpoint = some peer) (spared : grant.Spares peer) :
    after.native.calls.filter (fun call => call.peer = peer.handle) =
      before.native.calls.filter fun call => call.peer = peer.handle := by
  induction effects with
  | refl => rfl
  | @tail middle last earlier effect inductionHypothesis =>
      have stillHeld := (Effects.spares earlier consistent held spared).1
      have formed := (Effects.consistent earlier consistent).formed stillHeld
      have elsewhere : ∀ other, middle.peers.get? other.endpoint = some other → other ≠ peer →
          other.handle ≠ peer.handle := by
        intro other otherHeld different sameHandle
        have keys := formed.handle_injective otherHeld stillHeld sameHandle
        exact different (by simpa [keys, stillHeld] using otherHeld.symm)
      -- A call on another handle does not show.
      have snoc : ∀ call : NativeCall, call.peer ≠ peer.handle →
          (middle.native.calls ++ [call]).filter (fun call => call.peer = peer.handle) =
            before.native.calls.filter fun call => call.peer = peer.handle := by
        intro call other
        simp [List.filter_append, other, inductionHypothesis]
      have imported : ∀ other (memories : List Bytes), other ≠ peer.handle →
          (middle.native.importAll other memories).calls.filter
              (fun call => call.peer = peer.handle) =
            before.native.calls.filter fun call => call.peer = peer.handle := by
        intro other memories different
        have noneAdded : (memories.map fun metadata =>
            NativeCall.importRemoteMemory other metadata true).filter
              (fun call => call.peer = peer.handle) = [] := by
          simp [List.filter_eq_nil_iff, NativeCall.peer, different]
        rw [NativeEngine.importAll_calls, List.filter_append, inductionHypothesis, noneAdded,
          List.append_nil]
      cases effect with
      | @addPeer fresh endpoint isOpen answer absent unused =>
          obtain ⟨origin, made, sameObject⟩ := formed.fromCreated stillHeld
          exact snoc _ fun same => unused origin made (sameObject.handle.trans same.symm)
      | joinPeer otherHeld unconnected addressed named granted =>
          exact snoc _ (elsewhere _ otherHeld fun same => spared.offers _ (same ▸ granted))
      | joinFailed otherHeld unconnected answer granted =>
          exact snoc _ (elsewhere _ otherHeld fun same => spared.offers _ (same ▸ granted))
      | deliver => exact inductionHypothesis
      | importAll otherHeld joined newer granted =>
          exact imported _ _ (elsewhere _ otherHeld fun same => spared.imports _ (same ▸ granted))
      | @importPart other snapshot done rest metadata otherHeld joined newer split failed granted =>
          have different := elsewhere _ otherHeld fun same => spared.imports _ (same ▸ granted)
          have unaffected := imported other.handle done different
          simpa [NativeCall.peer, different, List.filter_append] using unaffected
      | markReady => exact inductionHypothesis
      | dropPeer otherHeld granted =>
          exact snoc _ (elsewhere _ otherHeld fun same => spared.destroys (same ▸ granted))
      | dropFailed otherHeld answer granted =>
          exact snoc _ (elsewhere _ otherHeld fun same => spared.destroys (same ▸ granted))
      | append => exact inductionHypothesis
      | register => exact inductionHypothesis

/-- The states of one object stay in a set that contains those its grant can assign.  Only a
connected peer is marked ready. -/
theorem Effects.state_within {env : Environment} {grant : Grant} {before after : ControlPlane}
    {handle : Handle} (within : PeerState → Prop) (effects : Effects env grant before after)
    (made : within .created) (offered : ∀ peer offer, grant.offers peer offer → within .connected)
    (readied : ∀ peer state, grant.readies peer → state ≠ .created → within state →
      within .ready)
    (initially : ∀ endpoint peer, before.peers.get? endpoint = some peer →
      peer.handle = handle → within peer.state) :
    ∀ endpoint peer, after.peers.get? endpoint = some peer → peer.handle = handle →
      within peer.state := by
  induction effects with
  | refl => exact initially
  | tail _ effect inductionHypothesis =>
      cases effect with
      | addPeer => grind [addPeer_peers, freshPeer]
      | joinPeer held unconnected addressed named granted => grind [joinPeer_peers]
      | importAll held joined newer granted =>
          grind [storePeer_peers, importMemory_peers, deliver_peers]
      | markReady held joined granted => grind [storePeer_peers]
      | dropPeer held granted => grind [dropPeer_peers]
      | joinFailed => exact inductionHypothesis
      | deliver => exact inductionHypothesis
      | importPart => exact inductionHypothesis
      | dropFailed => exact inductionHypothesis
      | append => exact inductionHypothesis
      | register => exact inductionHypothesis

end Rdma101
