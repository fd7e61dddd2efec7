/-
Module: Rdma101.Session.Model
Purpose: The abstract protocol between two parties.  Each party holds at most one link to the
  other, makes one call at a time, and keeps a list of memories that only grows.  What is on
  the way between the parties is the status of their calls: a request that was sent, an answer
  that was given, or a failure.
Trusted boundary: an abstract statement of the protocol, not a translation of source code
Main exports: Session.Link, Session.Status, Session.Call, Session.Side, Session.Rules,
  Session.Act, Session, Session.Step, Session.swap
-/
import Mathlib.Logic.Relation
import Mathlib.Data.Set.Insert

namespace Session

/-- One end of a connection.  It is connected once `remote` names the other end. -/
@[ext]
structure Link (Id : Type*) where
  id : Id
  remote : Option Id := none
  ready : Bool := false
  /-- How many memories of the other party were imported. -/
  version : Nat := 0

/-- Two states of one link that is connected to one remote end. -/
@[grind]
structure Link.Like {Id : Type*} (earlier later : Link Id) : Prop where
  id : later.id = earlier.id
  remote : later.remote = earlier.remote

/-- How far a request has come. -/
inductive Status (Answer : Type*) where
  | sent
  | answered (answer : Answer)
  | failed

/-- What a party that publishes a memory has told the other party. -/
inductive Turn (Id : Type*) where
  /-- The link with this id is to be notified later. -/
  | pending (id : Id)
  | told (id : Id) (status : Status Unit)
  /-- The other party is not to be notified, or it was. -/
  | past

/-- The call a party is making to the other. -/
inductive Call (Id Memory : Type*) where
  /-- It offers the link `id` and is answered with an id. -/
  | offering (id : Id) (status : Status Id)
  /-- It sends its memories for the link `id` and is answered with the number of the other's. -/
  | updating (id : Id) (version : Nat) (status : Status Nat)
  | notifying (memory : Memory) (version : Nat) (turn : Turn Id)
  | closing (id : Id) (status : Status Unit)

/-- One party. -/
@[ext]
structure Side (Id Memory : Type*) where
  link : Option (Link Id) := none
  call : Option (Call Id Memory) := none
  memories : List Memory := []
  /-- The memories whose publication has returned. -/
  returned : Set Memory := ∅
  /-- The ids that the party ever gave to a link. -/
  made : Set Id := ∅

/-- Whom a party that publishes now is to notify: the other end of a ready link. -/
@[grind]
def Side.turn {Id Memory : Type*} (side : Side Id Memory) : Turn Id :=
  match side.link with
  | none => .past
  | some link => if link.ready then .pending link.id else .past

/-- What the applications and the network may do: which links a party may drop of its own
accord, and when an offer may be delivered to a party. -/
structure Rules (Id Memory : Type*) where
  drops : Link Id → Prop
  /-- `accepts receiver sender id`. -/
  accepts : Side Id Memory → Side Id Memory → Id → Prop

variable {Id Memory : Type*}

/-- A step of the party `near`, which may take a request of the party `far`. -/
inductive Act (rules : Rules Id Memory) (near far : Side Id Memory) :
    Side Id Memory → Side Id Memory → Prop where
  /-- Make a link and offer it. -/
  | create {id : Id} (idle : near.call = none) (absent : near.link = none)
      (fresh : id ∉ near.made) (freshFar : id ∉ far.made) :
      Act rules near far
        { near with link := some { id }, made := insert id near.made
                    call := some (.offering id .sent) } far
  /-- Offer the link there is. -/
  | dial {link : Link Id} (idle : near.call = none) (held : near.link = some link) :
      Act rules near far { near with call := some (.offering link.id .sent) } far
  /-- Take an offer without having a link. -/
  | acceptNew {id theirs : Id} (offered : far.call = some (.offering theirs .sent))
      (allowed : rules.accepts near far theirs) (absent : near.link = none)
      (fresh : id ∉ near.made) (freshFar : id ∉ far.made) :
      Act rules near far
        { near with link := some { id, remote := some theirs }, made := insert id near.made }
        { far with call := some (.offering theirs (.answered id)) }
  /-- Take an offer for a link that is not connected yet. -/
  | acceptPending {link : Link Id} {theirs : Id}
      (offered : far.call = some (.offering theirs .sent))
      (allowed : rules.accepts near far theirs) (held : near.link = some link)
      (unconnected : link.remote = none) :
      Act rules near far { near with link := some { link with remote := some theirs } }
        { far with call := some (.offering theirs (.answered link.id)) }
  /-- Take the offer the link is connected to. -/
  | acceptAgain {link : Link Id} {theirs : Id}
      (offered : far.call = some (.offering theirs .sent))
      (allowed : rules.accepts near far theirs) (held : near.link = some link)
      (connected : link.remote = some theirs) :
      Act rules near far near { far with call := some (.offering theirs (.answered link.id)) }
  /-- Refuse an offer for a link that is connected elsewhere. -/
  | refuseOffer {link : Link Id} {theirs other : Id}
      (offered : far.call = some (.offering theirs .sent))
      (allowed : rules.accepts near far theirs) (held : near.link = some link)
      (connected : link.remote = some other) (different : other ≠ theirs) :
      Act rules near far near { far with call := some (.offering theirs .failed) }
  /-- Connect the offered link to the answer and send the memories. -/
  | join {link : Link Id} {theirs : Id}
      (answered : near.call = some (.offering link.id (.answered theirs)))
      (held : near.link = some link)
      (connects : link.remote = none ∨ link.remote = some theirs) :
      Act rules near far
        { near with link := some { link with remote := some theirs }
                    call := some (.updating link.id near.memories.length .sent) } far
  /-- Give up an offer: it failed, or the link is gone or connected elsewhere. -/
  | abandonOffer {id : Id} {status : Status Id}
      (calling : near.call = some (.offering id status)) (unsent : status ≠ .sent)
      (stuck : ∀ theirs link, status = .answered theirs → near.link = some link →
        link.id = id → link.remote ≠ none ∧ link.remote ≠ some theirs) :
      Act rules near far { near with call := none } far
  /-- Take the memories of the other party for the link connected to it. -/
  | acceptUpdate {link : Link Id} {theirs : Id} {version : Nat}
      (updated : far.call = some (.updating theirs version .sent))
      (held : near.link = some link) (connected : link.remote = some theirs) :
      Act rules near far
        { near with link := some { link with ready := true
                                             version := max link.version version } }
        { far with call := some (.updating theirs version (.answered near.memories.length)) }
  | refuseUpdate {theirs : Id} {version : Nat}
      (updated : far.call = some (.updating theirs version .sent))
      (unknown : ∀ link, near.link = some link → link.remote ≠ some theirs) :
      Act rules near far near { far with call := some (.updating theirs version .failed) }
  /-- Take the answer to an update. -/
  | finish {link : Link Id} {version count : Nat}
      (answered : near.call = some (.updating link.id version (.answered count)))
      (held : near.link = some link) :
      Act rules near far
        { near with link := some { link with ready := true, version := max link.version count }
                    call := none } far
  /-- Give up an update: it failed, or the link is gone. -/
  | abandonUpdate {id : Id} {version : Nat} {status : Status Nat}
      (calling : near.call = some (.updating id version status)) (unsent : status ≠ .sent)
      (stuck : ∀ count link, status = .answered count → near.link = some link →
        link.id ≠ id) :
      Act rules near far { near with call := none } far
  /-- Append a memory.  The other end of a ready link is to be notified. -/
  | publish (memory : Memory) (idle : near.call = none) :
      Act rules near far
        { near with memories := near.memories ++ [memory]
                    call := some (.notifying memory (near.memories.length + 1) near.turn) } far
  | notify {memory : Memory} {version : Nat} {id : Id}
      (calling : near.call = some (.notifying memory version (.pending id))) :
      Act rules near far
        { near with call := some (.notifying memory version (.told id .sent)) } far
  /-- Take a notification for the link connected to its sender. -/
  | acceptNotice {link : Link Id} {memory : Memory} {version : Nat} {theirs : Id}
      (notified : far.call = some (.notifying memory version (.told theirs .sent)))
      (held : near.link = some link) (connected : link.remote = some theirs) :
      Act rules near far
        { near with link := some { link with version := max link.version version } }
        { far with call := some (.notifying memory version (.told theirs (.answered ()))) }
  | refuseNotice {memory : Memory} {version : Nat} {theirs : Id}
      (notified : far.call = some (.notifying memory version (.told theirs .sent)))
      (unknown : ∀ link, near.link = some link → link.remote ≠ some theirs) :
      Act rules near far near
        { far with call := some (.notifying memory version (.told theirs .failed)) }
  /-- The notification was taken. -/
  | pass {memory : Memory} {version : Nat} {id : Id}
      (calling : near.call = some (.notifying memory version (.told id (.answered ())))) :
      Act rules near far { near with call := some (.notifying memory version .past) } far
  /-- The publication returns. -/
  | published {memory : Memory} {version : Nat}
      (calling : near.call = some (.notifying memory version .past)) :
      Act rules near far
        { near with call := none, returned := insert memory near.returned } far
  /-- The publication raises, here or at a third party. -/
  | abandonPublish {memory : Memory} {version : Nat} {turn : Turn Id}
      (calling : near.call = some (.notifying memory version turn)) :
      Act rules near far { near with call := none } far
  /-- Drop the link and ask the other party to drop its own. -/
  | drop {link : Link Id} (idle : near.call = none) (held : near.link = some link)
      (allowed : rules.drops link) :
      Act rules near far { near with link := none, call := some (.closing link.id .sent) } far
  /-- Drop the link that is connected to a dropped one. -/
  | acceptClose {link : Link Id} {theirs : Id}
      (closed : far.call = some (.closing theirs .sent)) (held : near.link = some link)
      (connected : link.remote = some theirs) :
      Act rules near far { near with link := none }
        { far with call := some (.closing theirs (.answered ())) }
  | ignoreClose {theirs : Id} (closed : far.call = some (.closing theirs .sent))
      (unknown : ∀ link, near.link = some link → link.remote ≠ some theirs) :
      Act rules near far near { far with call := some (.closing theirs (.answered ())) }
  /-- A call to close ends. -/
  | closed {id : Id} {status : Status Unit} (calling : near.call = some (.closing id status))
      (unsent : status ≠ .sent) : Act rules near far { near with call := none } far

/-- An act whose ends are given by equations. -/
theorem Act.of_eq {rules : Rules Id Memory} {near far near' far' near'' far'' : Side Id Memory}
    (act : Act rules near far near' far') (sameNear : near'' = near') (sameFar : far'' = far') :
    Act rules near far near'' far'' :=
  sameNear ▸ sameFar ▸ act

end Session

/-- The state of the two parties. -/
structure Session (Id Memory : Type*) where
  near : Session.Side Id Memory := {}
  far : Session.Side Id Memory := {}

namespace Session

variable {Id Memory : Type*}

/-- The same session, seen from the other party. -/
def swap (session : Session Id Memory) : Session Id Memory :=
  ⟨session.far, session.near⟩

@[simp] theorem swap_near (session : Session Id Memory) : session.swap.near = session.far := rfl

/-- Either party acts. -/
inductive Step (rules : Rules Id Memory) : Session Id Memory → Session Id Memory → Prop where
  | near {near far near' far' : Side Id Memory} (act : Act rules near far near' far') :
      Step rules ⟨near, far⟩ ⟨near', far'⟩
  | far {near far near' far' : Side Id Memory} (act : Act rules far near far' near') :
      Step rules ⟨near, far⟩ ⟨near', far'⟩

/-- Zero or more steps. -/
abbrev Steps (rules : Rules Id Memory) : Session Id Memory → Session Id Memory → Prop :=
  Relation.ReflTransGen (Step rules)

/-- Acts of one party that leave the other alone. -/
abbrev Own (rules : Rules Id Memory) (far : Side Id Memory) :
    Side Id Memory → Side Id Memory → Prop :=
  Relation.ReflTransGen fun near near' => Act rules near far near' far

theorem Own.steps {rules : Rules Id Memory} {near near' far : Side Id Memory}
    (own : Own rules far near near') : Steps rules ⟨near, far⟩ ⟨near', far⟩ := by
  induction own with
  | refl => exact .refl
  | tail _ act inductionHypothesis => exact .tail inductionHypothesis (.near act)

theorem Step.swap {rules : Rules Id Memory} {before after : Session Id Memory}
    (step : Step rules before after) : Step rules before.swap after.swap := by
  cases step with
  | near act => exact .far act
  | far act => exact .near act

theorem Steps.swap {rules : Rules Id Memory} {before after : Session Id Memory}
    (steps : Steps rules before after) : Steps rules before.swap after.swap := by
  induction steps with
  | refl => exact .refl
  | tail _ step inductionHypothesis => exact .tail inductionHypothesis step.swap

/-- What every act preserves, seen from both parties, holds after any steps. -/
theorem Steps.invariant {rules : Rules Id Memory} {holds : Side Id Memory → Side Id Memory → Prop}
    (preserved : ∀ {near far near' far'}, Act rules near far near' far' →
      holds near far → holds far near → holds near' far' ∧ holds far' near')
    {before after : Session Id Memory} (steps : Steps rules before after)
    (initially : holds before.near before.far ∧ holds before.far before.near) :
    holds after.near after.far ∧ holds after.far after.near := by
  induction steps with
  | refl => exact initially
  | tail _ step inductionHypothesis =>
      cases step with
      | near act => exact preserved act inductionHypothesis.1 inductionHypothesis.2
      | far act => exact (preserved act inductionHypothesis.2 inductionHypothesis.1).symm

end Session
