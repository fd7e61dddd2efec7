/-
Module: Rdma101.Session.Agreement
Purpose: Ready links agree: when a party holds a ready link and the link it is connected to is
  still there, that link is connected back.
Trusted boundary: none
Main exports: Session.Naming, Session.Agreement, Session.Act.agreement_near,
  Session.Act.agreement_far
-/
import Rdma101.Session.Model

namespace Session

variable {Id Memory : Type*}

/-- Where the ids in the links and calls of `near` come from. -/
structure Naming (near far : Side Id Memory) : Prop where
  disjoint : ∀ id ∈ near.made, id ∉ far.made
  linkMade : ∀ link, near.link = some link → link.id ∈ near.made
  remoteMade : ∀ link theirs, near.link = some link → link.remote = some theirs →
    theirs ∈ far.made
  offeringMade : ∀ id status, near.call = some (.offering id status) → id ∈ near.made
  updatingMade : ∀ id version status, near.call = some (.updating id version status) →
    id ∈ near.made
  closingMade : ∀ id status, near.call = some (.closing id status) → id ∈ near.made
  answerMade : ∀ id theirs, near.call = some (.offering id (.answered theirs)) →
    theirs ∈ far.made

/-- How the link and the call of a party fit the link of the other party. -/
structure Agreement (call : Option (Call Id Memory)) (mine theirs : Option (Link Id)) : Prop where
  /-- A link that was answered to an offer is connected to the offer. -/
  offered : ∀ id answer other, call = some (.offering id (.answered answer)) →
    theirs = some other → other.id = answer → other.remote = some id
  /-- An answer that can still be taken is the link that is connected to the offer. -/
  answered : ∀ link answer other, call = some (.offering link.id (.answered answer)) →
    mine = some link → link.remote = none ∨ link.remote = some answer →
    theirs = some other → other.remote = some link.id → other.id = answer
  updatingJoined : ∀ link version status, call = some (.updating link.id version status) →
    mine = some link → link.remote ≠ none
  /-- The link of an update is connected to a link that is connected back. -/
  updating : ∀ link version status other, call = some (.updating link.id version status) →
    mine = some link → theirs = some other → link.remote = some other.id →
    other.remote = some link.id
  /-- An update reaches the link it is meant for. -/
  updateSent : ∀ link version other, call = some (.updating link.id version .sent) →
    mine = some link → theirs = some other → other.remote = some link.id →
    link.remote = some other.id
  readyJoined : ∀ link, mine = some link → link.ready = true → link.remote ≠ none
  ready : ∀ link other, mine = some link → link.ready = true → theirs = some other →
    link.remote = some other.id → other.remote = some link.id

/-- A call that no longer waits for a link, or failed, needs nothing. -/
theorem Agreement.stop {call later : Option (Call Id Memory)} {mine theirs : Option (Link Id)}
    (agrees : Agreement call mine theirs)
    (stopped : ∀ id, (∀ status, later = some (.offering id status) → status = .failed) ∧
      ∀ version status, later = some (.updating id version status) → status = .failed ∧
        ∃ earlier, call = some (.updating id version earlier)) :
    Agreement later mine theirs := by
  obtain ⟨_, _, _, _, _, _, _⟩ := agrees
  constructor <;> grind

/-- What is imported does not matter. -/
theorem Agreement.relink {call : Option (Call Id Memory)} {theirs : Option (Link Id)}
    {link later : Link Id} (agrees : Agreement call (some link) theirs) (like : link.Like later)
    (sameReady : later.ready = link.ready) : Agreement call (some later) theirs := by
  obtain ⟨_, _, _, _, _, _, _⟩ := agrees
  obtain ⟨_, _⟩ := like
  constructor <;> grind

/-- Whether the link of the other party is ready does not matter. -/
theorem Agreement.relink_theirs {call : Option (Call Id Memory)} {mine : Option (Link Id)}
    {link later : Link Id} (agrees : Agreement call mine (some link)) (like : link.Like later) :
    Agreement call mine (some later) := by
  obtain ⟨_, _, _, _, _, _, _⟩ := agrees
  obtain ⟨_, _⟩ := like
  constructor <;> grind

/-- A call that is about no link names nothing. -/
theorem Naming.stop {near far later : Side Id Memory} (names : Naming near far)
    (sameLink : later.link = near.link) (sameMade : later.made = near.made)
    (stopped : ∀ id, (∀ status, later.call ≠ some (.offering id status)) ∧
      (∀ version status, later.call ≠ some (.updating id version status)) ∧
      ∀ status, later.call ≠ some (.closing id status)) : Naming later far := by
  obtain ⟨_, _, _, _, _, _, _⟩ := names
  constructor <;> grind

section

variable {rules : Rules Id Memory} {near far near' far' : Side Id Memory}

theorem Act.naming_near (act : Act rules near far near' far') (nearNames : Naming near far)
    (farNames : Naming far near) : Naming near' far' := by
  cases act with
  | acceptAgain | refuseOffer | refuseUpdate | refuseNotice | ignoreClose =>
      exact ⟨nearNames.1, nearNames.2, nearNames.3, nearNames.4, nearNames.5, nearNames.6,
        nearNames.7⟩
  | abandonOffer | abandonUpdate | publish | notify | pass | published | abandonPublish
  | closed => exact nearNames.stop rfl rfl (by simp)
  | create | dial | acceptNew | acceptPending | join | acceptUpdate | finish | acceptNotice
  | drop | acceptClose =>
      obtain ⟨_, _, _, _, _, _, _⟩ := nearNames
      obtain ⟨_, _, _, _, _, _, _⟩ := farNames
      constructor <;> grind

theorem Act.naming_far (act : Act rules near far near' far') (nearNames : Naming near far)
    (farNames : Naming far near) : Naming far' near' := by
  cases act with
  | dial | join | abandonOffer | finish | abandonUpdate | publish | notify | pass | published
  | abandonPublish | drop | closed =>
      exact ⟨farNames.1, farNames.2, farNames.3, farNames.4, farNames.5, farNames.6, farNames.7⟩
  | create | acceptNew | acceptPending | acceptAgain | refuseOffer | acceptUpdate
  | refuseUpdate | acceptNotice | refuseNotice | acceptClose | ignoreClose =>
      obtain ⟨_, _, _, _, _, _, _⟩ := nearNames
      obtain ⟨_, _, _, _, _, _, _⟩ := farNames
      constructor <;> grind

theorem Act.agreement_near (act : Act rules near far near' far') (nearNames : Naming near far)
    (farNames : Naming far near) (nearAgrees : Agreement near.call near.link far.link)
    (farAgrees : Agreement far.call far.link near.link) :
    Agreement near'.call near'.link far'.link := by
  cases act with
  | abandonOffer | abandonUpdate | publish | notify | pass | published | abandonPublish | closed =>
      exact nearAgrees.stop (by simp)
  | acceptAgain | refuseOffer | refuseUpdate | refuseNotice | ignoreClose => exact nearAgrees
  | acceptNotice _ held => exact (held ▸ nearAgrees).relink ⟨rfl, rfl⟩ rfl
  | create | dial | acceptNew | acceptPending | join | acceptUpdate | finish | drop
  | acceptClose =>
      obtain ⟨_, _, _, _, _, _, _⟩ := nearNames
      obtain ⟨_, _, _, _, _, _, _⟩ := farNames
      obtain ⟨_, _, _, _, _, _, _⟩ := nearAgrees
      obtain ⟨_, _, _, _, _, _, _⟩ := farAgrees
      constructor <;> grind

theorem Act.agreement_far (act : Act rules near far near' far') (nearNames : Naming near far)
    (farNames : Naming far near) (nearAgrees : Agreement near.call near.link far.link)
    (farAgrees : Agreement far.call far.link near.link) :
    Agreement far'.call far'.link near'.link := by
  cases act with
  | dial | abandonOffer | abandonUpdate | publish | notify | pass | published | abandonPublish
  | closed => exact farAgrees
  | refuseOffer | refuseUpdate | refuseNotice | ignoreClose => exact farAgrees.stop (by simp_all)
  | finish _ held => exact (held ▸ farAgrees).relink_theirs ⟨rfl, rfl⟩
  | @acceptNotice link memory version theirs notified held =>
      have like : link.Like { link with version := max link.version version } := ⟨rfl, rfl⟩
      rw [held] at farAgrees
      have stopped : Agreement (some (.notifying memory version (.told theirs (.answered ()))))
          far.link (some link) := farAgrees.stop (by simp)
      exact stopped.relink_theirs like
  | create | acceptNew | acceptPending | acceptAgain | join | acceptUpdate | drop
  | acceptClose =>
      obtain ⟨_, _, _, _, _, _, _⟩ := nearNames
      obtain ⟨_, _, _, _, _, _, _⟩ := farNames
      obtain ⟨_, _, _, _, _, _, _⟩ := nearAgrees
      obtain ⟨_, _, _, _, _, _, _⟩ := farAgrees
      constructor <;> grind

end

end Session
