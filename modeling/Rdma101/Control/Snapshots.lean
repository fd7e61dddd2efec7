/-
Module: Rdma101.Control.Snapshots
Purpose: Whatever the order, loss and repetition of snapshots and whichever imports fail, the
  metadata imported for a peer are a first part of the list of registrations of its node.
Trusted boundary: none
Main exports: ControlPlane.largestDelivered, ImportedPrefix, importsPrefixes_of_reachable,
  imports_are_prefix
-/
import Rdma101.Control.Wiring

namespace Rdma101

open Wire ControlPlane

/-- Some import under the handle has failed. -/
def ControlPlane.ImportFailed (control : ControlPlane) (handle : Handle) : Prop :=
  ∃ metadata, .importRemoteMemory handle metadata false ∈ control.native.calls

/-- The largest snapshot version that was delivered to a handle, 0 if none was. -/
def ControlPlane.largestDelivered (control : ControlPlane) (handle : Handle) : Nat :=
  ((control.delivered.filter fun entry => entry.1 = handle).map Prod.snd).foldl max 0

/-- The metadata imported for a peer are the first `count` registrations of a list. -/
structure ImportedPrefix (control : ControlPlane) (registrations : List Bytes) (peer : Peer)
    (count : Nat) : Prop where
  within : count ≤ registrations.length
  version : peer.remoteVersion.toNat ≤ count
  imports : ∀ metadata, (peer.handle, metadata) ∈ control.native.imports ↔
    metadata ∈ registrations.take count
  exact : ¬control.ImportFailed peer.handle → count = peer.remoteVersion.toNat ∧
    control.largestDelivered peer.handle = peer.remoteVersion.toNat

namespace ImportedPrefix

variable {control after : ControlPlane} {registrations longer : List Bytes} {peer later : Peer}
  {count : Nat}

/-- Registrations that are appended later do not matter. -/
theorem append (imported : ImportedPrefix control registrations peer count)
    (grown : registrations <+: longer) : ImportedPrefix control longer peer count where
  within := Nat.le_trans imported.within grown.length_le
  version := imported.version
  imports := by
    intro metadata
    obtain ⟨suffix, rfl⟩ := grown
    rw [List.take_append_of_le_length imported.within]
    exact imported.imports metadata
  exact := imported.exact

/-- A change that touches neither the imports nor the deliveries of the peer. -/
theorem congr (imported : ImportedPrefix control registrations peer count)
    (sameHandle : later.handle = peer.handle)
    (sameVersion : later.remoteVersion = peer.remoteVersion)
    (sameImports : ∀ metadata, (peer.handle, metadata) ∈ after.native.imports ↔
      (peer.handle, metadata) ∈ control.native.imports)
    (sameFailures : control.ImportFailed peer.handle → after.ImportFailed peer.handle)
    (sameDeliveries : after.largestDelivered peer.handle = control.largestDelivered peer.handle) :
    ImportedPrefix after registrations later count where
  within := imported.within
  version := sameVersion ▸ imported.version
  imports := fun metadata => by rw [sameHandle, sameImports, imported.imports]
  exact := by
    rw [sameHandle, sameVersion, sameDeliveries]
    exact fun noFailure => imported.exact fun failed => noFailure (sameFailures failed)

end ImportedPrefix

theorem largestDelivered_deliver (control : ControlPlane) (peer : Peer) (version : Nat)
    (handle : Handle) :
    (control.deliver peer version).largestDelivered handle =
      if handle = peer.handle then max (control.largestDelivered handle) version
      else control.largestDelivered handle := by
  by_cases same : handle = peer.handle
  · simp [largestDelivered, same]
  · simp [largestDelivered, same, Ne.symm same]

theorem largestDelivered_eq_zero {control : ControlPlane} {handle : Handle}
    (undelivered : ∀ entry ∈ control.delivered, entry.1 ≠ handle) :
    control.largestDelivered handle = 0 := by
  have nothing : control.delivered.filter (fun entry => entry.1 = handle) = [] := by
    rw [List.filter_eq_nil_iff]
    simpa using undelivered
  rw [largestDelivered, nothing]
  rfl

theorem mem_take_max {registrations : List Bytes} {first second : Nat} {metadata : Bytes} :
    metadata ∈ registrations.take (max first second) ↔
      metadata ∈ registrations.take first ∨ metadata ∈ registrations.take second := by
  have smaller : ∀ {few many : Nat}, few ≤ many →
      metadata ∈ registrations.take few → metadata ∈ registrations.take many :=
    fun le member => (List.take_sublist_take_left le).subset member
  constructor
  · rcases Nat.le_total first second with le | le
    · rw [Nat.max_eq_right le]
      exact .inr
    · rw [Nat.max_eq_left le]
      exact .inl
  · rintro (member | member)
    · exact smaller (Nat.le_max_left _ _) member
    · exact smaller (Nat.le_max_right _ _) member

/-! ### Effects

The imports of a peer are a first part of the list, whatever has failed; when no import has
failed, they are as many as the newest version that was delivered.  Only one effect imports, and
what it brings is a first part of the same list. -/

/-- The invariant of one control plane.  `lists` gives the registrations behind an endpoint. -/
structure ImportsPrefixes (lists : String → List Bytes → Prop) (control : ControlPlane) :
    Prop where
  deliveredKnown : ∀ entry ∈ control.delivered, ∃ origin ∈ control.created,
    origin.handle = entry.1
  prefixes : ∀ endpoint peer, control.peers.get? endpoint = some peer →
    ∀ registrations, lists peer.endpoint registrations →
      ∃ count, ImportedPrefix control registrations peer count

section Effects

variable {env : Environment} {grant : Grant} {before after : ControlPlane}
  {lists : String → List Bytes → Prop}

/-- A new peer has imported nothing. -/
theorem importedPrefix_fresh (formed : before.WellFormed)
    (known : ImportsPrefixes lists before) {fresh : PeerMetadata} {endpoint uuid : String}
    (unused : ∀ peer ∈ before.created, peer.handle ≠ fresh.peer) (registrations : List Bytes) :
    ImportedPrefix (before.addPeer (freshPeer fresh endpoint uuid)) registrations
      (freshPeer fresh endpoint uuid) 0 where
  within := Nat.zero_le _
  version := Nat.le_refl _
  imports := by
    intro metadata
    refine ⟨fun member => ?_, by simp⟩
    have live := formed.connectedLive (formed.importsConnected member)
    obtain ⟨origin, made, sameHandle⟩ := formed.live_created live
    exact absurd sameHandle (unused origin made)
  exact := by
    intro _
    refine ⟨rfl, ?_⟩
    apply largestDelivered_eq_zero
    intro entry member same
    obtain ⟨origin, made, sameHandle⟩ := known.deliveredKnown entry member
    exact unused origin made (sameHandle.trans same)

/-- Importing a first part of the list extends what was imported. -/
theorem importedPrefix_importMemory {registrations memories : List Bytes} {peer : Peer}
    {count version : Nat} (imported : ImportedPrefix before registrations peer count)
    (isPrefix : memories <+: registrations) (metadata : Bytes) :
    (peer.handle, metadata) ∈ ((before.deliver peer version).importMemory peer
        memories).native.imports ↔
      metadata ∈ registrations.take (max count memories.length) := by
  rw [mem_take_max, ← imported.imports, ← List.prefix_iff_eq_take.mp isPrefix]
  simp [NativeEngine.mem_importAll_imports]

/-- A change after which every peer of the table has what a peer had before. -/
theorem ImportsPrefixes.congr (known : ImportsPrefixes lists before)
    (sameDelivered : after.delivered = before.delivered)
    (sameCreated : after.created = before.created)
    (same : ∀ key peer, after.peers.get? key = some peer → ∃ earlier,
      before.peers.get? key = some earlier ∧ peer.SameObject earlier ∧
      peer.remoteVersion = earlier.remoteVersion ∧
      ∀ metadata, (earlier.handle, metadata) ∈ after.native.imports ↔
        (earlier.handle, metadata) ∈ before.native.imports)
    (grown : before.native.calls ⊆ after.native.calls) : ImportsPrefixes lists after where
  deliveredKnown := by
    rw [sameDelivered, sameCreated]
    exact known.deliveredKnown
  prefixes := by
    intro key peer held registrations isList
    obtain ⟨earlier, earlierHeld, sameObject, sameVersion, sameImports⟩ := same key peer held
    obtain ⟨count, imported⟩ := known.prefixes key earlier earlierHeld registrations
      (sameObject.endpoint ▸ isList)
    refine ⟨count, imported.congr sameObject.handle sameVersion sameImports
      (fun ⟨metadata, member⟩ => ⟨metadata, grown member⟩) ?_⟩
    rw [largestDelivered, largestDelivered, sameDelivered]

/-- A change of the peer `peer` only, after a delivery to it. -/
theorem ImportsPrefixes.of_deliver (known : ImportsPrefixes lists before)
    (consistent : before.Consistent) {peer : Peer} {version : Nat}
    (held : before.peers.get? peer.endpoint = some peer) (later : Peer)
    (sameCreated : after.created = before.created)
    (delivered : after.delivered = (before.deliver peer version).delivered)
    (stored : ∀ key, after.peers.get? key =
      if key = peer.endpoint then some later else before.peers.get? key)
    (sameObject : later.SameObject peer)
    (others : ∀ handle, handle ≠ peer.handle → ∀ metadata,
      (handle, metadata) ∈ after.native.imports ↔ (handle, metadata) ∈ before.native.imports)
    (grown : before.native.calls ⊆ after.native.calls)
    (here : ∀ registrations count, lists peer.endpoint registrations →
      ImportedPrefix before registrations peer count →
      ∃ more, ImportedPrefix after registrations later more) : ImportsPrefixes lists after where
  deliveredKnown := by
    rw [sameCreated, delivered]
    intro entry member
    rcases List.mem_append.mp member with old | new
    · exact known.deliveredKnown entry old
    · obtain ⟨origin, made, same⟩ := (consistent.formed held).fromCreated held
      rw [List.mem_singleton] at new
      exact ⟨origin, made, by rw [new, same.handle]⟩
  prefixes := by
    intro key found isFound registrations isList
    rw [stored] at isFound
    split at isFound
    · rw [Option.some.injEq] at isFound
      subst isFound
      rw [sameObject.endpoint] at isList
      obtain ⟨count, imported⟩ := known.prefixes _ peer held registrations isList
      exact here registrations count isList imported
    · rename_i elsewhere
      have other : found.handle ≠ peer.handle := fun same =>
        elsewhere ((consistent.formed held).handle_injective isFound held same)
      obtain ⟨count, imported⟩ := known.prefixes key found isFound registrations isList
      refine ⟨count, imported.congr rfl rfl (others found.handle other)
        (fun ⟨metadata, member⟩ => ⟨metadata, grown member⟩) ?_⟩
      have untouched := largestDelivered_deliver before peer version found.handle
      rw [if_neg other] at untouched
      rw [← untouched, largestDelivered, delivered]
      rfl

theorem Effect.importsPrefixes (effect : Effect env grant before after)
    (consistent : before.Consistent) (known : ImportsPrefixes lists before)
    (granted : ∀ peer snapshot, grant.imports peer snapshot → ∀ registrations,
      lists peer.endpoint registrations →
      snapshot.version = snapshot.memories.length ∧ snapshot.memories <+: registrations) :
    ImportsPrefixes lists after := by
  cases effect with
  | @addPeer fresh endpoint isOpen answer absent unused nonempty creates =>
      have formed := consistent.opened isOpen
      refine ⟨fun entry member => ?_, fun key peer held registrations isList => ?_⟩
      · obtain ⟨origin, made, sameHandle⟩ := known.deliveredKnown entry member
        exact ⟨origin, List.mem_append_left _ made, sameHandle⟩
      · rw [addPeer_peers, OrderedDict.get?_set] at held
        split at held
        · rw [Option.some.injEq] at held
          exact held ▸ ⟨0, importedPrefix_fresh formed known unused registrations⟩
        · obtain ⟨count, imported⟩ := known.prefixes key peer held registrations isList
          exact ⟨count, imported.congr rfl rfl (fun _ => by simp)
            (fun ⟨metadata, member⟩ => ⟨metadata, List.mem_append_left _ member⟩) rfl⟩
  | @joinPeer peer offer held unconnected addressed named offers =>
      refine known.congr rfl rfl (fun key found isFound => ?_) (List.subset_append_left _ _)
      rw [joinPeer_peers, OrderedDict.get?_set] at isFound
      split at isFound
      · rename_i here
        rw [Option.some.injEq] at isFound
        exact ⟨peer, here ▸ held, isFound ▸ ⟨rfl, rfl, rfl, rfl⟩, isFound ▸ rfl, by simp⟩
      · exact ⟨found, isFound, .refl found, rfl, by simp⟩
  | joinFailed held unconnected answer offers =>
      exact known.congr rfl rfl (fun _ found isFound => ⟨found, isFound, .refl found, rfl, by simp⟩)
        (List.subset_append_left _ _)
  | @deliver peer snapshot held joined stale imports =>
      refine known.of_deliver consistent held peer rfl rfl (fun key => ?_) (.refl peer)
        (fun _ _ _ => Iff.rfl) (List.Subset.refl _) fun registrations count isList imported =>
          ⟨count, imported.within, imported.version, imported.imports, fun noFailure => ?_⟩
      · by_cases here : key = peer.endpoint <;> simp [here, held]
      · obtain ⟨isCount, isLargest⟩ := imported.exact noFailure
        refine ⟨isCount, ?_⟩
        rw [largestDelivered_deliver, if_pos rfl, isLargest]
        omega
  | @importAll peer snapshot held joined newer imports =>
      refine known.of_deliver consistent held { peer with remoteVersion := snapshot.version }
        rfl rfl (fun key => by simp) ⟨rfl, rfl, rfl, rfl⟩ ?_
        (NativeEngine.subset_importAll_calls _ _ _) fun registrations count isList imported => ?_
      · intro handle other metadata
        simp [NativeEngine.mem_importAll_imports, other]
      · obtain ⟨numbered, isPrefix⟩ := granted peer snapshot imports registrations isList
        refine ⟨max count snapshot.version, ?_, ?_, ?_, fun noFailure => ?_⟩
        · exact Nat.max_le.mpr ⟨imported.within, numbered ▸ isPrefix.length_le⟩
        · exact Nat.le_max_right count snapshot.version
        · rw [numbered]
          exact importedPrefix_importMemory imported isPrefix
        · have before' := imported.exact fun ⟨metadata, member⟩ =>
            noFailure ⟨metadata, NativeEngine.subset_importAll_calls _ _ _ member⟩
          have largest : (before.deliver peer snapshot.version).largestDelivered peer.handle =
              max (before.largestDelivered peer.handle) snapshot.version := by
            rw [largestDelivered_deliver, if_pos rfl]
          refine ⟨?_, ?_⟩
          · simp only [Int.toNat_natCast]
            omega
          · apply Eq.trans largest
            simp only [Int.toNat_natCast]
            omega
  | @importPart peer snapshot done rest metadata held joined newer split failed imports =>
      refine known.of_deliver consistent held peer rfl rfl (fun key => ?_) (.refl peer) ?_
        (List.Subset.trans (NativeEngine.subset_importAll_calls _ _ _)
          (List.subset_append_left _ _))
        fun registrations count isList imported => ?_
      · by_cases here : key = peer.endpoint <;> simp [here, held]
      · intro handle other entry
        simp [NativeEngine.mem_importAll_imports, other]
      · obtain ⟨_, isPrefix⟩ := granted peer snapshot imports registrations isList
        have donePrefix : done <+: registrations :=
          List.IsPrefix.trans (split ▸ List.prefix_append _ _) isPrefix
        refine ⟨max count done.length, ?_, ?_, ?_, fun noFailure => ?_⟩
        · exact Nat.max_le.mpr ⟨imported.within, donePrefix.length_le⟩
        · exact Nat.le_trans imported.version (Nat.le_max_left _ _)
        · exact importedPrefix_importMemory imported donePrefix
        · exact absurd ⟨metadata, List.mem_append_right _ (by simp)⟩ noFailure
  | @markReady peer held joined readies =>
      refine known.congr rfl rfl (fun key found isFound => ?_) (List.Subset.refl _)
      rw [storePeer_peers, OrderedDict.get?_set] at isFound
      split at isFound
      · rename_i here
        rw [Option.some.injEq] at isFound
        exact ⟨peer, here ▸ held, isFound ▸ ⟨rfl, rfl, rfl, rfl⟩, isFound ▸ rfl, by simp⟩
      · exact ⟨found, isFound, .refl found, rfl, by simp⟩
  | @dropPeer peer held destroys =>
      refine known.congr rfl rfl (fun key found isFound => ?_) (List.subset_append_left _ _)
      rw [dropPeer_peers, OrderedDict.get?_erase] at isFound
      split at isFound
      · simp at isFound
      · rename_i here
        have other : found.handle ≠ peer.handle := fun same =>
          here ((consistent.formed held).handle_injective isFound held same)
        exact ⟨found, isFound, .refl found, rfl, by simp [other]⟩
  | dropFailed held answer destroys =>
      exact known.congr rfl rfl (fun _ found isFound => ⟨found, isFound, .refl found, rfl, by simp⟩)
        (List.subset_append_left _ _)
  | append =>
      exact known.congr rfl rfl (fun _ found isFound => ⟨found, isFound, .refl found, rfl, by simp⟩)
        (List.Subset.refl _)
  | register =>
      exact known.congr rfl rfl (fun _ found isFound => ⟨found, isFound, .refl found, rfl, by simp⟩)
        (List.Subset.refl _)

theorem Effects.importsPrefixes (effects : Effects env grant before after)
    (consistent : before.Consistent) (known : ImportsPrefixes lists before)
    (granted : ∀ peer snapshot, grant.imports peer snapshot → ∀ registrations,
      lists peer.endpoint registrations →
      snapshot.version = snapshot.memories.length ∧ snapshot.memories <+: registrations) :
    ImportsPrefixes lists after := by
  induction effects with
  | refl => exact known
  | tail earlier effect inductionHypothesis =>
      exact effect.importsPrefixes (Effects.consistent earlier consistent) inductionHypothesis
        granted

end Effects

/-! ### Runs

The lists of registrations only grow, so what is a first part of a list stays one. -/

variable {Node : Type}

/-- The registrations of the node that advertises an endpoint. -/
def Registrations (topology : Topology Node) (system : System Node) (endpoint : String)
    (registrations : List Bytes) : Prop :=
  ∃ maker, topology.endpoint maker = endpoint ∧
    registrations = (system.engine maker).control.memoryMetadata

/-- The registrations of the node that advertises an endpoint, while its engine is open. -/
def OpenRegistrations (topology : Topology Node) (system : System Node) (endpoint : String)
    (registrations : List Bytes) : Prop :=
  ∃ maker, topology.endpoint maker = endpoint ∧
    (system.engine maker).control.closed = false ∧
    registrations = (system.engine maker).control.memoryMetadata

/-- A snapshot that an action is entitled to import for a peer was announced by the node the
peer dials. -/
theorem Entitled.announced {topology : Topology Node} {system : System Node}
    {action : Action Node} {node maker : Node} {grant : Grant} {peer : Peer}
    {snapshot : Snapshot} (entitled : Entitled topology system action node grant)
    (authentic : Authentic topology system) (granted : grant.imports peer snapshot)
    (isMaker : topology.endpoint maker = peer.endpoint) :
    (system.engine maker).control.Announced snapshot := by
  cases entitled with
  | nothing => exact granted.elim
  | dial => exact granted.elim
  | join => exact granted.elim
  | append => exact granted.elim
  | disconnect => exact granted.elim
  | register => exact granted.elim
  | @finish _ _ call env waitingPeer rpc given waiting sent answered =>
      obtain ⟨_, sameEndpoint, rfl⟩ := granted
      obtain ⟨target, reached, isReply⟩ :=
        authentic.replies rpc (List.mem_of_getElem? sent) _ answered
      obtain ⟨_, ⟨_, found, isRpc, _, isEndpoint, isRequest⟩, _⟩ :=
        authentic.operations node _ waiting
      obtain rfl : found = rpc := by simpa [isRpc] using sent
      rw [isRequest] at isReply
      rw [isEndpoint, ← sameEndpoint, ← isMaker, topology.resolve_endpoint, Option.some.injEq]
        at reached
      exact reached ▸ isReply
  | @handle _ call env rpc sent reached =>
      obtain ⟨origin, _, _, about⟩ := authentic.requests rpc (List.mem_of_getElem? sent)
      cases isRequest : rpc.request with
      | connect request => rw [isRequest] at granted; exact granted.elim
      | close request => rw [isRequest] at granted; exact granted.elim
      | ready request =>
          rw [isRequest] at granted about
          obtain ⟨sameEndpoint, _, rfl⟩ := granted
          rw [← isMaker, about.1] at sameEndpoint
          exact topology.endpoint_injective sameEndpoint ▸ about.2
      | changed request =>
          rw [isRequest] at granted about
          obtain ⟨sameEndpoint, _, rfl⟩ := granted
          rw [← isMaker, about.1] at sameEndpoint
          exact topology.endpoint_injective sameEndpoint ▸ about.2

variable [DecidableEq Node] {topology : Topology Node}

/-- The invariant of runs in which no engine is closed. -/
structure Prefixed (topology : Topology Node) (system : System Node) : Prop where
  opened : ∀ node, (system.engine node).control.closed = false
  prefixes : ∀ node,
    ImportsPrefixes (Registrations topology system) (system.engine node).control

theorem ImportsPrefixes.mono {lists longer : String → List Bytes → Prop}
    {control : ControlPlane} (known : ImportsPrefixes lists control)
    (grown : ∀ endpoint after, longer endpoint after →
      ∃ before, lists endpoint before ∧ before <+: after) : ImportsPrefixes longer control where
  deliveredKnown := known.deliveredKnown
  prefixes := by
    intro key peer held registrations isList
    obtain ⟨before, wasList, isPrefix⟩ := grown _ _ isList
    obtain ⟨count, imported⟩ := known.prefixes key peer held before wasList
    exact ⟨count, imported.append isPrefix⟩

theorem ImportsPrefixes.close {lists : String → List Bytes → Prop} {control : ControlPlane}
    (known : ImportsPrefixes lists control) : ImportsPrefixes lists control.close := by
  rw [ControlPlane.close]
  split
  · exact known
  · exact ⟨known.deliveredKnown, by simp⟩

theorem Transition.importsPrefixes {before after : System Node} {action : Action Node}
    (transition : Transition topology before action after)
    (authentic : Authentic topology before)
    (known : ∀ node, ImportsPrefixes (OpenRegistrations topology before)
      (before.engine node).control) (other : Node) :
    ImportsPrefixes (OpenRegistrations topology after) (after.engine other).control := by
  have grows := transition.grows authentic.consistent
  have lengthened : ∀ one,
      ImportsPrefixes (OpenRegistrations topology after) (before.engine one).control := by
    intro one
    apply (known one).mono
    rintro endpoint _ ⟨maker, isMaker, isOpen, rfl⟩
    obtain ⟨env, grant, _, evolves⟩ := grows.evolves maker
    exact ⟨_, ⟨maker, isMaker, evolves.opened isOpen, rfl⟩, evolves.memories isOpen⟩
  obtain ⟨node, others, change⟩ := transition.effects
  by_cases here : other = node
  · subst here
    rcases change with ⟨grant, entitled, _, effects⟩ | ⟨_, isClosed⟩
    · apply Effects.importsPrefixes effects (authentic.consistent other) (lengthened other)
      rintro peer snapshot granted _ ⟨maker, isMaker, isOpen, rfl⟩
      exact grows.announced (entitled.announced authentic granted isMaker) isOpen
    · exact isClosed ▸ (lengthened other).close
  · rw [others other here]
    exact lengthened other

/-- Whatever happens, the imports for a peer are a first part of the registrations behind it. -/
theorem importsPrefixes_of_reachable {allowed : System Node → Action Node → Prop}
    (fresh : ∀ system action, allowed system action → system.FreshNames topology action)
    {system : System Node} (reached : (controlSystem topology).Reachable allowed system)
    (node : Node) :
    ImportsPrefixes (OpenRegistrations topology system) (system.engine node).control := by
  let property (state : System Node) : Prop :=
    ∀ one, ImportsPrefixes (OpenRegistrations topology state) (state.engine one).control
  have holds : property system := by
    refine reached.invariant_with (fun _ => authentic_of_reachable fresh)
      (fun state isStart => ?_) ?_
    · rw [show state = System.start from isStart]
      intro one
      constructor <;> simp [System.start]
    · intro before action after authentic _ held obeys taken
      exact (authentic.transition (fresh before action obeys) taken).importsPrefixes authentic held
  exact holds node

theorem prefixed_of_reachable {allowed : System Node → Action Node → Prop}
    (fresh : ∀ system action, allowed system action → system.FreshNames topology action)
    (keepsOpen : ∀ system action, allowed system action → action.KeepsOpen)
    {system : System Node} (reached : (controlSystem topology).Reachable allowed system) :
    Prefixed topology system := by
  have opened : ∀ node, (system.engine node).control.closed = false := by
    let property (state : System Node) : Prop :=
      ∀ node, (state.engine node).control.closed = false
    have holds : property system := by
      refine reached.invariant_with (fun _ => authentic_of_reachable fresh)
        (fun state isStart => ?_) ?_
      · rw [show state = System.start from isStart]
        exact fun _ => rfl
      · intro before action after authentic _ held obeys taken node
        obtain ⟨actor, others, change⟩ :=
          (authentic.transition (fresh before action obeys) taken).effects
        by_cases here : node = actor
        · subst here
          rcases change with ⟨_, _, _, effects⟩ | ⟨rfl, _⟩
          · rw [Effects.closed effects, held]
          · exact (keepsOpen before _ obeys).elim
        · rw [others node here, held]
    exact holds
  refine ⟨opened, fun node => (importsPrefixes_of_reachable fresh reached node).mono ?_⟩
  rintro endpoint _ ⟨maker, isMaker, rfl⟩
  exact ⟨_, ⟨maker, isMaker, opened maker, rfl⟩, List.prefix_rfl⟩

/-- Snapshot imports are always a prefix, whatever the message order. -/
theorem imports_are_prefix {system : System Node}
    (reached : (controlSystem topology).Reachable (fun system action =>
      system.FreshNames topology action ∧ action.KeepsOpen) system)
    {node other : Node} {endpoint : String} {peer : Peer}
    (held : (system.engine node).control.peers.get? endpoint = some peer)
    (connected : peer.endpoint = topology.endpoint other) :
    (∃ count ≤ (system.engine other).control.memoryMetadata.length,
      max peer.remoteVersion 0 ≤ count ∧
      (∀ metadata, (peer.handle, metadata) ∈ (system.engine node).control.native.imports ↔
        metadata ∈ (system.engine other).control.memoryMetadata.take count) ∧
      (¬(system.engine node).control.ImportFailed peer.handle →
        count = max peer.remoteVersion 0 ∧
        count = (system.engine node).control.largestDelivered peer.handle)) ∧
    ∀ action after, system.FreshNames topology action →
      (controlSystem topology).step system action = some after → ∀ second later,
      (after.engine node).control.peers.get? second = some later →
      later.handle = peer.handle → peer.remoteVersion ≤ later.remoteVersion := by
  have authentic := authentic_of_reachable (fun _ _ obeys => obeys.1) reached
  have prefixed := prefixed_of_reachable (fun _ _ obeys => obeys.1) (fun _ _ obeys => obeys.2)
    reached
  refine ⟨?_, fun action after fresh taken second later laterHeld sameHandle => ?_⟩
  · obtain ⟨count, imported⟩ := (prefixed.prefixes node).prefixes endpoint peer held _
      ⟨other, connected.symm, rfl⟩
    refine ⟨count, imported.within, ?_, imported.imports, fun noFailure => ?_⟩
    · have := imported.version
      omega
    · have := imported.exact noFailure
      omega
  · exact ((authentic.transition fresh taken).succeeds authentic held laterHeld
      sameHandle).2.version

theorem imports_are_prefix_pair : ∃ (system : System Bool) (peer : Peer) (count : Nat),
    (system.engine true).control.peers.get? "alpha" = some peer ∧
    max peer.remoteVersion 0 ≤ count ∧
    ∀ metadata, (peer.handle, metadata) ∈ (system.engine true).control.native.imports ↔
      metadata ∈ (system.engine false).control.memoryMetadata.take count := by
  have computed : ∃ system, (controlSystem Topology.pair).Reachable
      (fun system action => system.FreshNames Topology.pair action ∧ action.KeepsOpen) system ∧
      ∃ peer ∈ (system.engine true).control.peers.get? "alpha",
        peer.endpoint = Topology.pair.endpoint false :=
    LabelledSystem.exists_reachable (.initial rfl) connectAndRegister (by decide)
  obtain ⟨system, reached, peer, held, connected⟩ := computed
  obtain ⟨⟨count, _, covers, imports, _⟩, _⟩ := imports_are_prefix reached held connected
  exact ⟨system, peer, count, held, covers, imports⟩

end Rdma101
