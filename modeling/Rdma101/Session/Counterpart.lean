/-
Module: Rdma101.Session.Counterpart
Purpose: No half-open link: when links are dropped only once they are ready and every offer is
  timely, a connected link has its counterpart, or is about to be told that it lost it.
Trusted boundary: none
Main exports: Session.Timely, Session.Rules.timely, Session.Counterpart,
  Session.Act.counterpart_near, Session.Act.counterpart_far, Session.Counterpart.at_rest
-/
import Rdma101.Session.Coverage

namespace Session

variable {Id Memory : Type*}

/-- An offer reaches a party that is connected already, or the offered link is still there and is
free or connected to the link of that party. -/
@[grind]
def Timely (receiver sender : Side Id Memory) (id : Id) : Prop :=
  (∃ link, receiver.link = some link ∧ link.remote ≠ none) ∨
    ∃ offered, sender.link = some offered ∧ offered.id = id ∧
      (offered.remote = none ∨
        ∃ link, receiver.link = some link ∧ offered.remote = some link.id)

/-- Only ready links are dropped, and offers are timely. -/
@[simps]
def Rules.timely : Rules Id Memory where
  drops := fun link => link.ready = true
  accepts := Timely

attribute [grind =] Rules.timely_drops Rules.timely_accepts

/-- What stands behind the connected link of a party: the link it is connected to is there and
connected back, or will be by the answer to its offer; or that link is gone, and the request to
close is on its way. -/
structure Counterpart (mine theirs : Option (Link Id)) (call : Option (Call Id Memory)) :
    Prop where
  joined : ∀ link remote, mine = some link → link.remote = some remote →
    (∃ other, theirs = some other ∧ other.id = remote ∧
      (other.remote = some link.id ∨
        (other.remote = none ∧ call = some (.offering remote (.answered link.id))))) ∨
    ((∀ other, theirs = some other → other.id ≠ remote) ∧ call = some (.closing remote .sent))
  /-- The answer to the offer of a free link is a link that is there and connected to it. -/
  answered : ∀ link answer, theirs = some link → link.remote = none →
    call = some (.offering link.id (.answered answer)) →
    ∃ other, mine = some other ∧ other.id = answer ∧ other.remote = some link.id
  closed : ∀ id status other, call = some (.closing id status) → theirs = some other →
    other.id ≠ id

/-- At rest a connected link and its counterpart name each other. -/
theorem Counterpart.at_rest {mine theirs : Option (Link Id)} {call : Option (Call Id Memory)}
    (counterpart : Counterpart mine theirs call) (idle : call = none) {link : Link Id}
    {remote : Id} (held : mine = some link) (connected : link.remote = some remote) :
    ∃ other, theirs = some other ∧ other.id = remote ∧ other.remote = some link.id := by
  rcases counterpart.joined link remote held connected with
    ⟨other, isOther, isRemote, back | ⟨_, offering⟩⟩ | ⟨_, closing⟩
  · exact ⟨other, isOther, isRemote, back⟩
  · simp [idle] at offering
  · simp [idle] at closing

/-- A call between two that neither hold the answer to an offer nor close a link. -/
theorem Counterpart.recall {mine theirs : Option (Link Id)} {call later : Option (Call Id Memory)}
    (counterpart : Counterpart mine theirs call)
    (unanswered : ∀ id answer, call ≠ some (.offering id (.answered answer)))
    (unsent : ∀ id, call ≠ some (.closing id .sent))
    (laterUnanswered : ∀ id answer, later ≠ some (.offering id (.answered answer)))
    (laterOpen : ∀ id status, later ≠ some (.closing id status)) :
    Counterpart mine theirs later where
  joined := by
    intro link remote held connected
    rcases counterpart.joined link remote held connected with
      ⟨other, isOther, isRemote, back | ⟨_, offering⟩⟩ | ⟨_, closing⟩
    · exact .inl ⟨other, isOther, isRemote, .inl back⟩
    · exact absurd offering (unanswered _ _)
    · exact absurd closing (unsent _)
  answered := fun _ _ _ _ offering => absurd offering (laterUnanswered _ _)
  closed := fun _ _ _ closing _ => absurd closing (laterOpen _ _)

/-- What is imported and whether a link is ready does not matter. -/
theorem Counterpart.relink {theirs : Option (Link Id)} {call : Option (Call Id Memory)}
    {link later : Link Id} (counterpart : Counterpart (some link) theirs call)
    (like : link.Like later) : Counterpart (some later) theirs call := by
  obtain ⟨_, _, _⟩ := counterpart
  obtain ⟨_, _⟩ := like
  constructor <;> grind

theorem Counterpart.relink_theirs {mine : Option (Link Id)} {call : Option (Call Id Memory)}
    {link later : Link Id} (counterpart : Counterpart mine (some link) call)
    (like : link.Like later) : Counterpart mine (some later) call := by
  obtain ⟨_, _, _⟩ := counterpart
  obtain ⟨_, _⟩ := like
  constructor <;> grind

variable {near far near' far' : Side Id Memory}

theorem Act.counterpart_near (act : Act Rules.timely near far near' far')
    (nearOrderly : Orderly near far) (farOrderly : Orderly far near)
    (nearCounterpart : Counterpart near.link far.link far.call)
    (farCounterpart : Counterpart far.link near.link near.call) :
    Counterpart near'.link far'.link far'.call := by
  obtain ⟨_, nearAgrees, _, _, _⟩ := nearOrderly
  obtain ⟨_, farAgrees, _, _, _⟩ := farOrderly
  cases act with
  | dial | abandonOffer | abandonUpdate | publish | notify | pass | published | abandonPublish
  | closed => exact nearCounterpart
  | refuseOffer | refuseUpdate | refuseNotice =>
      exact nearCounterpart.recall (by simp_all) (by simp_all) (by simp) (by simp)
  | finish _ held => exact (held ▸ nearCounterpart).relink ⟨rfl, rfl⟩
  | acceptUpdate _ held | acceptNotice _ held =>
      rw [held] at nearCounterpart
      exact (nearCounterpart.recall (by simp_all) (by simp_all) (by simp) (by simp)).relink
        ⟨rfl, rfl⟩
  | create | acceptNew | acceptPending | acceptAgain | join | drop | acceptClose
  | ignoreClose =>
      obtain ⟨_, _, _, _, _, _, _⟩ := nearAgrees
      obtain ⟨_, _, _, _, _, _, _⟩ := farAgrees
      obtain ⟨_, _, _⟩ := nearCounterpart
      obtain ⟨_, _, _⟩ := farCounterpart
      constructor <;> grind

theorem Act.counterpart_far (act : Act Rules.timely near far near' far')
    (nearOrderly : Orderly near far) (farOrderly : Orderly far near)
    (nearCounterpart : Counterpart near.link far.link far.call)
    (farCounterpart : Counterpart far.link near.link near.call) :
    Counterpart far'.link near'.link near'.call := by
  obtain ⟨nearNames, nearAgrees, _, _, _⟩ := nearOrderly
  obtain ⟨farNames, farAgrees, _, _, _⟩ := farOrderly
  cases act with
  | acceptAgain | refuseOffer | refuseUpdate | refuseNotice | ignoreClose => exact farCounterpart
  | dial | abandonUpdate | publish | notify | pass | published | abandonPublish | closed =>
      exact farCounterpart.recall (by simp_all) (by simp_all) (by simp) (by simp)
  | acceptUpdate _ held | acceptNotice _ held =>
      exact (held ▸ farCounterpart).relink_theirs ⟨rfl, rfl⟩
  | finish _ held =>
      rw [held] at farCounterpart
      exact (farCounterpart.recall (by simp_all) (by simp_all) (by simp) (by simp)).relink_theirs
        ⟨rfl, rfl⟩
  | create | acceptNew | acceptPending | join | abandonOffer | drop | acceptClose =>
      obtain ⟨_, _, _, _, _, _, _⟩ := nearNames
      obtain ⟨_, _, _, _, _, _, _⟩ := farNames
      obtain ⟨_, _, _, _, _, _, _⟩ := nearAgrees
      obtain ⟨_, _, _, _, _, _, _⟩ := farAgrees
      obtain ⟨_, _, _⟩ := nearCounterpart
      obtain ⟨_, _, _⟩ := farCounterpart
      constructor <;> grind

end Session
