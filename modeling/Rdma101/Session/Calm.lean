/-
Module: Rdma101.Session.Calm
Purpose: When no link is ever dropped, every call finds the link it is about, so that none of
  them is refused or given up, and offers are always timely.
Trusted boundary: none
Main exports: Session.Rules.lasting, Session.Calm, Session.Peaceful, Peaceful.offer_taken,
  Peaceful.answer_taken, Peaceful.update_taken, Peaceful.notice_taken, Session.Act.peaceful
-/
import Rdma101.Session.Counterpart

namespace Session

variable {Id Memory : Type*}

/-- No link is dropped; offers may come at any time. -/
@[simps]
def Rules.lasting : Rules Id Memory where
  drops := fun _ => False
  accepts := fun _ _ _ => True

attribute [grind =] Rules.lasting_drops

/-- The call of a party is about its link, and did not fail. -/
structure Calm (call : Option (Call Id Memory)) (mine theirs : Option (Link Id)) : Prop where
  offering : ∀ id status, call = some (.offering id status) →
    status ≠ .failed ∧ ∃ link, mine = some link ∧ link.id = id
  answered : ∀ id answer, call = some (.offering id (.answered answer)) →
    ∃ other, theirs = some other ∧ other.id = answer
  /-- The other party has taken the offer of a link that is being updated. -/
  updating : ∀ id version status, call = some (.updating id version status) →
    status ≠ .failed ∧ (∃ link, mine = some link ∧ link.id = id) ∧
      ∃ other, theirs = some other ∧ other.remote = some id
  pending : ∀ memory version id, call = some (.notifying memory version (.pending id)) →
    ∃ link, mine = some link ∧ link.id = id ∧ link.ready = true
  told : ∀ memory version id status, call = some (.notifying memory version (.told id status)) →
    status ≠ .failed ∧ ∃ link, mine = some link ∧ link.id = id ∧ link.ready = true
  unclosed : ∀ id status, call ≠ some (.closing id status)

theorem Calm.idle (mine theirs : Option (Link Id)) :
    Calm (none : Option (Call Id Memory)) mine theirs := by
  constructor <;> simp

/-- A link that keeps its id, and stays ready, is the link that a call is about. -/
theorem Calm.relink {call : Option (Call Id Memory)} {theirs : Option (Link Id)}
    {link later : Link Id} (calm : Calm call (some link) theirs) (sameId : later.id = link.id)
    (stays : link.ready = true → later.ready = true) : Calm call (some later) theirs := by
  obtain ⟨_, _, _, _, _, _⟩ := calm
  constructor <;> grind

/-- Everything that holds of a party, seen from it, when no link is dropped. -/
structure Peaceful (near far : Side Id Memory) : Prop where
  orderly : Orderly near far
  counterpart : Counterpart near.link far.link far.call
  calm : Calm near.call near.link far.link
  /-- The link is the only one that was ever made. -/
  kept : ∀ id ∈ near.made, ∃ link, near.link = some link ∧ link.id = id

theorem Peaceful.start : Peaceful ({} : Side Id Memory) {} :=
  ⟨.start, by constructor <;> simp, .idle _ _, by simp⟩

/-- An update finds the link it is about. -/
theorem Peaceful.update_taken {near far : Side Id Memory} (farPeaceful : Peaceful far near)
    {theirs : Id} {version : Nat} {status : Status Nat}
    (updated : far.call = some (.updating theirs version status)) :
    ∃ link, near.link = some link ∧ link.remote = some theirs :=
  (farPeaceful.calm.updating _ _ _ updated).2.2

/-- Two parties that make no call: when one has a ready link, the other has one that is ready and
connected to it, and they name each other. -/
theorem Peaceful.ready_both {near far : Side Id Memory} (nearPeaceful : Peaceful near far)
    (farPeaceful : Peaceful far near) (farIdle : far.call = none) {link : Link Id}
    (held : near.link = some link) (isReady : link.ready = true) :
    ∃ other, far.link = some other ∧ link.remote = some other.id ∧
      other.remote = some link.id ∧ other.ready = true := by
  obtain ⟨remote, connected⟩ := Option.ne_none_iff_exists'.mp
    (nearPeaceful.orderly.agrees.readyJoined link held isReady)
  obtain ⟨other, isOther, rfl, back⟩ :=
    nearPeaceful.counterpart.at_rest farIdle held connected
  refine ⟨other, isOther, connected, back, ?_⟩
  cases state : other.ready with
  | true => rfl
  | false =>
      -- The other link would wait for the answer to its update.
      obtain ⟨_, _, waiting⟩ := farPeaceful.orderly.catches.behind other link
        ⟨isOther, held, back, connected⟩ isReady state
      simp [farIdle] at waiting

section

variable {near far : Side Id Memory} (nearPeaceful : Peaceful near far)
  (farPeaceful : Peaceful far near)

include nearPeaceful farPeaceful

/-- A connected link has its counterpart. -/
theorem Peaceful.joined {link : Link Id} {remote : Id} (held : near.link = some link)
    (connected : link.remote = some remote) :
    ∃ other, far.link = some other ∧ other.id = remote ∧
      (other.remote = some link.id ∨
        (other.remote = none ∧ far.call = some (.offering remote (.answered link.id)))) := by
  rcases nearPeaceful.counterpart.joined link remote held connected with found | ⟨_, closing⟩
  · exact found
  · exact absurd closing (farPeaceful.calm.unclosed _ _)

/-- An offer meets no link that is connected elsewhere. -/
theorem Peaceful.offer_taken {theirs : Id} {status : Status Id}
    (offered : far.call = some (.offering theirs status)) {link : Link Id}
    (held : near.link = some link) : link.remote = none ∨ link.remote = some theirs := by
  cases connected : link.remote with
  | none => exact .inl rfl
  | some remote =>
      obtain ⟨other, isOther, rfl, _⟩ := nearPeaceful.joined farPeaceful held connected
      obtain ⟨_, offeredLink, isOffered, rfl⟩ := farPeaceful.calm.offering _ _ offered
      rw [isOther, Option.some.injEq] at isOffered
      exact .inr (by rw [isOffered])

/-- The answer to an offer finds the offered link, free or connected to the answer. -/
theorem Peaceful.answer_taken {id theirs : Id}
    (answered : near.call = some (.offering id (.answered theirs))) :
    ∃ link, near.link = some link ∧ link.id = id ∧
      (link.remote = none ∨ link.remote = some theirs) := by
  obtain ⟨_, link, held, rfl⟩ := nearPeaceful.calm.offering _ _ answered
  refine ⟨link, held, rfl, ?_⟩
  cases connected : link.remote with
  | none => exact .inl rfl
  | some remote =>
      obtain ⟨other, isOther, rfl, _⟩ := nearPeaceful.joined farPeaceful held connected
      obtain ⟨answer, isAnswer, rfl⟩ := nearPeaceful.calm.answered _ _ answered
      rw [isOther, Option.some.injEq] at isAnswer
      exact .inr (by rw [isAnswer])

/-- A notification finds the link it is about. -/
theorem Peaceful.notice_taken {memory : Memory} {version : Nat} {theirs : Id}
    {status : Status Unit}
    (notified : far.call = some (.notifying memory version (.told theirs status))) :
    ∃ link, near.link = some link ∧ link.remote = some theirs := by
  obtain ⟨_, other, isOther, rfl, isReady⟩ := farPeaceful.calm.told _ _ _ _ notified
  obtain ⟨remote, connected⟩ := Option.ne_none_iff_exists'.mp
    (farPeaceful.orderly.agrees.readyJoined other isOther isReady)
  obtain ⟨link, held, rfl, _⟩ := farPeaceful.joined nearPeaceful isOther connected
  exact ⟨link, held,
    farPeaceful.orderly.agrees.ready other link isOther isReady held connected⟩

/-- Every offer is timely. -/
theorem Peaceful.timely {theirs : Id} {status : Status Id}
    (offered : far.call = some (.offering theirs status)) : Timely near far theirs := by
  obtain ⟨_, link, held, rfl⟩ := farPeaceful.calm.offering _ _ offered
  refine .inr ⟨link, held, rfl, ?_⟩
  cases connected : link.remote with
  | none => exact .inl rfl
  | some remote =>
      obtain ⟨other, isOther, rfl, _⟩ := farPeaceful.joined nearPeaceful held connected
      exact .inr ⟨other, isOther, rfl⟩

end

/-! ### What an act preserves

One lemma for each side of an act: the party that acts, and the one that is looked at. -/

variable {near far near' far' : Side Id Memory}

/-- Calm acts are timely acts. -/
theorem Act.timely (act : Act Rules.lasting near far near' far') (nearPeaceful : Peaceful near far)
    (farPeaceful : Peaceful far near) : Act Rules.timely near far near' far' := by
  cases act with
  | create idle absent fresh freshFar => exact .create idle absent fresh freshFar
  | dial idle held => exact .dial idle held
  | acceptNew offered _ absent fresh freshFar =>
      exact .acceptNew offered (nearPeaceful.timely farPeaceful offered) absent fresh freshFar
  | acceptPending offered _ held unconnected =>
      exact .acceptPending offered (nearPeaceful.timely farPeaceful offered) held unconnected
  | acceptAgain offered _ held connected =>
      exact .acceptAgain offered (nearPeaceful.timely farPeaceful offered) held connected
  | refuseOffer offered _ held connected different =>
      exact .refuseOffer offered (nearPeaceful.timely farPeaceful offered) held connected different
  | join answered held connects => exact .join answered held connects
  | abandonOffer calling unsent stuck => exact .abandonOffer calling unsent stuck
  | acceptUpdate updated held connected => exact .acceptUpdate updated held connected
  | refuseUpdate updated unknown => exact .refuseUpdate updated unknown
  | finish answered held => exact .finish answered held
  | abandonUpdate calling unsent stuck => exact .abandonUpdate calling unsent stuck
  | publish memory idle => exact .publish memory idle
  | notify calling => exact .notify calling
  | acceptNotice notified held connected => exact .acceptNotice notified held connected
  | refuseNotice notified unknown => exact .refuseNotice notified unknown
  | pass calling => exact .pass calling
  | published calling => exact .published calling
  | abandonPublish calling => exact .abandonPublish calling
  | drop _ _ allowed => exact allowed.elim
  | acceptClose closed held connected => exact .acceptClose closed held connected
  | ignoreClose closed unknown => exact .ignoreClose closed unknown
  | closed calling unsent => exact .closed calling unsent

theorem Act.calm_near (act : Act Rules.lasting near far near' far')
    (nearPeaceful : Peaceful near far) (farPeaceful : Peaceful far near) :
    Calm near'.call near'.link far'.link := by
  have farOpen := farPeaceful.calm.unclosed
  obtain ⟨nearOrderly, nearCounterpart, calm, _⟩ := nearPeaceful
  cases act with
  | acceptAgain | refuseOffer | refuseUpdate | refuseNotice | ignoreClose => exact calm
  | abandonOffer | finish | abandonUpdate | published | abandonPublish | closed => exact .idle _ _
  | drop _ _ allowed => exact allowed.elim
  | acceptClose closed => exact absurd closed (farOpen _ _)
  | acceptPending _ _ held | acceptUpdate _ held | acceptNotice _ held =>
      rw [held] at calm
      exact calm.relink rfl (by simp)
  | create | dial | acceptNew | join | publish | notify | pass =>
      obtain ⟨_, _, _, _, _, _, _⟩ := nearOrderly.agrees
      obtain ⟨_, _, _, _, _, _⟩ := calm
      constructor <;> grind

theorem Act.calm_far (act : Act Rules.lasting near far near' far')
    (nearPeaceful : Peaceful near far) (farPeaceful : Peaceful far near) :
    Calm far'.call far'.link near'.link := by
  cases act with
  | dial | abandonOffer | abandonUpdate | publish | notify | pass | published | abandonPublish
  | closed => exact farPeaceful.calm
  | drop _ _ allowed => exact allowed.elim
  | refuseOffer offered _ held connected different =>
      have taken := nearPeaceful.offer_taken farPeaceful offered held
      simp [connected, different] at taken
  | refuseUpdate updated unknown =>
      obtain ⟨link, held, connected⟩ := farPeaceful.update_taken updated
      exact absurd connected (unknown link held)
  | refuseNotice notified unknown =>
      obtain ⟨link, held, connected⟩ := nearPeaceful.notice_taken farPeaceful notified
      exact absurd connected (unknown link held)
  | acceptClose closed => exact absurd closed (farPeaceful.calm.unclosed _ _)
  | ignoreClose closed => exact absurd closed (farPeaceful.calm.unclosed _ _)
  | create | acceptNew | acceptPending | acceptAgain | join | acceptUpdate | finish
  | acceptNotice =>
      obtain ⟨_, _, _, _, _, _⟩ := farPeaceful.calm
      constructor <;> grind

theorem Act.kept_near (act : Act Rules.lasting near far near' far')
    (nearPeaceful : Peaceful near far) (farPeaceful : Peaceful far near) :
    ∀ id ∈ near'.made, ∃ link, near'.link = some link ∧ link.id = id := by
  have kept := nearPeaceful.kept
  cases act with
  | drop _ _ allowed => exact allowed.elim
  | acceptClose closed => exact absurd closed (farPeaceful.calm.unclosed _ _)
  | create | dial | acceptNew | acceptPending | acceptAgain | refuseOffer | join | abandonOffer
  | acceptUpdate | refuseUpdate | finish | abandonUpdate | publish | notify | acceptNotice
  | refuseNotice | pass | published | abandonPublish | ignoreClose | closed => grind

theorem Act.kept_far (act : Act Rules.lasting near far near' far')
    (farPeaceful : Peaceful far near) :
    ∀ id ∈ far'.made, ∃ link, far'.link = some link ∧ link.id = id := by
  cases act <;> exact farPeaceful.kept

theorem Act.peaceful (act : Act Rules.lasting near far near' far')
    (nearPeaceful : Peaceful near far) (farPeaceful : Peaceful far near) :
    Peaceful near' far' ∧ Peaceful far' near' := by
  have timely := act.timely nearPeaceful farPeaceful
  obtain ⟨nearOrderly, farOrderly⟩ := act.orderly nearPeaceful.orderly farPeaceful.orderly
  refine ⟨⟨nearOrderly, ?_, ?_, act.kept_near nearPeaceful farPeaceful⟩,
    ⟨farOrderly, ?_, ?_, act.kept_far farPeaceful⟩⟩
  · exact timely.counterpart_near nearPeaceful.orderly farPeaceful.orderly
      nearPeaceful.counterpart farPeaceful.counterpart
  · exact act.calm_near nearPeaceful farPeaceful
  · exact timely.counterpart_far nearPeaceful.orderly farPeaceful.orderly
      nearPeaceful.counterpart farPeaceful.counterpart
  · exact act.calm_far nearPeaceful farPeaceful

end Session
