/-
Module: Rdma101.Session.Coverage
Purpose: No memory is lost: what a party has published and the other party's ready link does not
  have is on its way, and nothing is on its way to a link that is ready.
Trusted boundary: none
Main exports: Session.Paired, Session.Recorded, Session.Catching, Session.Brought,
  Session.Coverage, Session.Coverage.ready, Session.Orderly, Session.Act.orderly
-/
import Rdma101.Session.Agreement

namespace Session

variable {Id Memory : Type*}

section Lists

variable {memories later : List Memory} {memory : Memory} {few many : Nat}

theorem mem_take_of_le (le : few ≤ many) (member : memory ∈ memories.take few) :
    memory ∈ memories.take many :=
  (List.take_sublist_take_left le).subset member

theorem mem_take_append (member : memory ∈ memories.take few) :
    memory ∈ (memories ++ later).take few := by
  rw [List.take_append]
  exact List.mem_append_left _ member

theorem mem_take_of_length_le (le : memories.length ≤ many) (member : memory ∈ memories) :
    memory ∈ memories.take many := by
  rwa [List.take_of_length_le le]

grind_pattern mem_take_of_le => memory ∈ memories.take few, memories.take many
grind_pattern mem_take_append => memory ∈ memories.take few, (memories ++ later).take few
grind_pattern mem_take_of_length_le => memory ∈ memories.take many, memories.length

end Lists

/-- Two links that are there and name each other. -/
@[grind]
structure Paired (mine theirs : Option (Link Id)) (link other : Link Id) : Prop where
  mine : mine = some link
  theirs : theirs = some other
  forth : link.remote = some other.id
  back : other.remote = some link.id

/-- What a party says of its own memories. -/
structure Recorded (side : Side Id Memory) : Prop where
  returned : ∀ memory ∈ side.returned, memory ∈ side.memories
  updating : ∀ id version status, side.call = some (.updating id version status) →
    version = side.memories.length
  notifying : ∀ memory version turn, side.call = some (.notifying memory version turn) →
    version = side.memories.length ∧ memory ∈ side.memories

/-- The update that makes a link ready, for a party with `total` memories.  Of two links that name
each other, one that is not ready while the other is waits for the answer to its update, and an
answered update has made the other link ready. -/
structure Catching (call : Option (Call Id Memory)) (mine theirs : Option (Link Id))
    (total : Nat) : Prop where
  behind : ∀ link other, Paired mine theirs link other → other.ready = true →
    link.ready = false → ∃ version count, call = some (.updating link.id version (.answered count))
  ahead : ∀ link other version count, Paired mine theirs link other →
    call = some (.updating link.id version (.answered count)) →
    other.ready = true ∧ total ≤ other.version

/-- The memory was imported for a link, or the answered update of the link brings it. -/
@[grind]
def Brought (memories : List Memory) (call : Option (Call Id Memory)) (link : Link Id)
    (memory : Memory) : Prop :=
  memory ∈ memories.take link.version ∨
    (link.ready = false ∧ ∃ version count,
      call = some (.updating link.id version (.answered count)) ∧ memory ∈ memories.take count)

/-- What the other party, with the link `theirs`, has or will have of the memories of a party. -/
structure Coverage (side : Side Id Memory) (call : Option (Call Id Memory))
    (theirs : Option (Link Id)) : Prop where
  /-- What was returned was brought to every link that is connected to a ready one. -/
  brought : ∀ link other, Paired side.link theirs link other → link.ready = true →
    ∀ memory ∈ side.returned, Brought side.memories call other memory
  /-- What is being published was brought, or the other party has yet to be told. -/
  published : ∀ link other memory version turn, Paired side.link theirs link other →
    link.ready = true → side.call = some (.notifying memory version turn) →
    turn = .pending link.id ∨ (∃ status, turn = .told link.id status ∧ status ≠ .answered ()) ∨
      Brought side.memories call other memory

/-- A ready link has every memory whose publication returned. -/
theorem Coverage.ready {near far : Side Id Memory} (records : Recorded near)
    (catches : Catching near.call near.link far.link near.memories.length)
    (covers : Coverage near far.call far.link) {link other : Link Id}
    (paired : Paired near.link far.link link other) (isReady : other.ready = true)
    {memory : Memory} (returned : memory ∈ near.returned) :
    memory ∈ near.memories.take other.version := by
  cases state : link.ready with
  | true =>
      rcases covers.brought link other paired state memory returned with imported | ⟨unready, _⟩
      · exact imported
      · simp [isReady] at unready
  | false =>
      -- The link waits for an answer, which the other party gave when it had everything.
      obtain ⟨version, count, waiting⟩ := catches.behind link other paired isReady state
      have all := (catches.ahead link other version count paired waiting).2
      exact mem_take_of_length_le all (records.returned memory returned)

/-! ### What an act preserves

Publishing adds a debt, a taken update or notification pays it, and all other acts leave it as
it is. -/

variable {rules : Rules Id Memory} {near far near' far' : Side Id Memory}

theorem Act.recorded (act : Act rules near far near' far') (nearRecords : Recorded near)
    (farRecords : Recorded far) : Recorded near' ∧ Recorded far' := by
  obtain ⟨_, _, _⟩ := nearRecords
  obtain ⟨_, _, _⟩ := farRecords
  cases act <;> constructor <;> constructor <;> grind

/-- A call that is not an answered update, and was none, catches up with nothing. -/
theorem Catching.recall {call later : Option (Call Id Memory)} {mine theirs : Option (Link Id)}
    {total : Nat} (catches : Catching call mine theirs total)
    (unanswered : ∀ id version count, call ≠ some (.updating id version (.answered count)))
    (laterUnanswered : ∀ id version count,
      later ≠ some (.updating id version (.answered count))) (more : Nat) :
    Catching later mine theirs more where
  behind := by
    intro link other paired isReady unready
    obtain ⟨version, count, waiting⟩ := catches.behind link other paired isReady unready
    exact absurd waiting (unanswered _ _ _)
  ahead := fun link other version count _ waiting => absurd waiting (laterUnanswered _ _ _)

theorem Act.catching_near (act : Act rules near far near' far') (farNames : Naming far near)
    (nearAgrees : Agreement near.call near.link far.link)
    (farAgrees : Agreement far.call far.link near.link)
    (catches : Catching near.call near.link far.link near.memories.length) :
    Catching near'.call near'.link far'.link near'.memories.length := by
  cases act with
  | acceptAgain | refuseOffer | refuseUpdate | refuseNotice | ignoreClose => exact catches
  | dial | abandonOffer | publish | notify | pass | published | abandonPublish | closed =>
      exact catches.recall (by simp_all) (by simp) _
  | create | acceptNew | acceptPending | join | acceptUpdate | finish | abandonUpdate
  | acceptNotice | drop | acceptClose =>
      obtain ⟨_, _, _, _, _, _, _⟩ := farNames
      obtain ⟨_, _, _, _, _, _, _⟩ := nearAgrees
      obtain ⟨_, _, _, _, _, _, _⟩ := farAgrees
      obtain ⟨_, _⟩ := catches
      constructor <;> grind

theorem Act.catching_far (act : Act rules near far near' far') (farNames : Naming far near)
    (nearAgrees : Agreement near.call near.link far.link)
    (farAgrees : Agreement far.call far.link near.link) (records : Recorded far)
    (nearCatches : Catching near.call near.link far.link near.memories.length)
    (farCatches : Catching far.call far.link near.link far.memories.length) :
    Catching far'.call far'.link near'.link far'.memories.length := by
  cases act with
  | dial | abandonOffer | abandonUpdate | publish | notify | pass | published | abandonPublish
  | closed => exact farCatches
  | acceptAgain | refuseOffer | refuseUpdate | refuseNotice | ignoreClose =>
      exact farCatches.recall (by simp_all) (by simp) _
  | @acceptUpdate link theirs version updated held connected =>
      -- The link of the update is the one that waits; the other is ready from now on.
      refine ⟨fun one other paired _ _ => ?_, fun one other _ count paired _ => ?_⟩
      · obtain ⟨_, isOther, _, back⟩ := paired
        obtain rfl := Option.some.inj isOther
        obtain rfl : theirs = one.id := by simpa [connected] using back
        exact ⟨version, _, rfl⟩
      · obtain ⟨_, isOther, _, _⟩ := paired
        obtain rfl := Option.some.inj isOther
        exact ⟨rfl, by simp [records.updating _ _ _ updated]⟩
  | create | acceptNew | acceptPending | join | finish | acceptNotice | drop | acceptClose =>
      obtain ⟨_, _, _, _, _, _, _⟩ := farNames
      obtain ⟨_, _, _, _, _, _, _⟩ := nearAgrees
      obtain ⟨_, _, _, _, _, _, _⟩ := farAgrees
      obtain ⟨_, _⟩ := nearCatches
      obtain ⟨_, _⟩ := farCatches
      obtain ⟨_, _, _⟩ := records
      constructor <;> grind

/-- What was returned stays brought, and what returns now was brought before. -/
theorem Act.brought_near (act : Act rules near far near' far')
    (nearAgrees : Agreement near.call near.link far.link) (records : Recorded near)
    (catches : Catching near.call near.link far.link near.memories.length)
    (covers : Coverage near far.call far.link) :
    ∀ link other, Paired near'.link far'.link link other → link.ready = true →
      ∀ memory ∈ near'.returned, Brought near'.memories far'.call other memory := by
  cases act with
  | dial | abandonOffer | abandonUpdate | notify | pass | abandonPublish | closed =>
      exact covers.brought
  | create | acceptNew | acceptPending | acceptAgain | refuseOffer | join | acceptUpdate
  | refuseUpdate | finish | publish | acceptNotice | refuseNotice | published | drop | acceptClose
  | ignoreClose =>
      obtain ⟨_, _, _, _, _, _, _⟩ := nearAgrees
      obtain ⟨_, _⟩ := catches
      obtain ⟨_, _⟩ := covers
      obtain ⟨_, _, _⟩ := records
      grind

theorem Act.brought_far (act : Act rules near far near' far') (farNames : Naming far near)
    (farAgrees : Agreement far.call far.link near.link) (records : Recorded far)
    (catches : Catching far.call far.link near.link far.memories.length)
    (covers : Coverage far near.call near.link) :
    ∀ link other, Paired far'.link near'.link link other → link.ready = true →
      ∀ memory ∈ far'.returned, Brought far'.memories near'.call other memory := by
  cases act with
  | acceptAgain | refuseOffer | refuseUpdate | refuseNotice | ignoreClose => exact covers.brought
  | create | dial | acceptNew | acceptPending | join | abandonOffer | acceptUpdate | finish
  | abandonUpdate | publish | notify | acceptNotice | pass | published | abandonPublish | drop
  | acceptClose | closed =>
      obtain ⟨_, _, _, _, _, _, _⟩ := farNames
      obtain ⟨_, _, _, _, _, _, _⟩ := farAgrees
      obtain ⟨_, _⟩ := catches
      obtain ⟨_, _⟩ := covers
      obtain ⟨_, _, _⟩ := records
      grind

theorem Act.published_near (act : Act rules near far near' far')
    (nearAgrees : Agreement near.call near.link far.link) (records : Recorded near)
    (catches : Catching near.call near.link far.link near.memories.length)
    (covers : Coverage near far.call far.link) :
    ∀ link other memory version turn, Paired near'.link far'.link link other →
      link.ready = true → near'.call = some (.notifying memory version turn) →
      turn = .pending link.id ∨ (∃ status, turn = .told link.id status ∧ status ≠ .answered ()) ∨
        Brought near'.memories far'.call other memory := by
  cases act with
  | create | dial | join | abandonOffer | finish | abandonUpdate | published | abandonPublish | drop
  | closed => simp
  | @acceptUpdate link theirs version updated held connected =>
      -- A link that becomes ready has an update on the way that brings the whole list.
      intro one other memory _ turn paired _ calling
      obtain ⟨isOne, isOther, forth, back⟩ := paired
      obtain rfl := Option.some.inj isOne
      obtain rfl : theirs = other.id := by simpa [connected] using forth
      have member := (records.notifying _ _ _ calling).2
      cases state : other.ready with
      | false => exact .inr (.inr (.inr ⟨state, version, _, rfl, by simpa using member⟩))
      | true =>
          have before : Paired near.link far.link link other := ⟨held, isOther, connected, back⟩
          cases wasReady : link.ready with
          | false =>
              obtain ⟨_, _, waiting⟩ := catches.behind link other before state wasReady
              simp [waiting] at calling
          | true =>
              rcases covers.published link other _ _ _ before wasReady calling with
                pending | told | imported | ⟨unready, _⟩
              · exact .inl pending
              · exact .inr (.inl told)
              · exact .inr (.inr (.inl imported))
              · simp [state] at unready
  | acceptNew | acceptPending | acceptAgain | refuseOffer | refuseUpdate | publish | notify
  | acceptNotice | refuseNotice | pass | acceptClose | ignoreClose =>
      obtain ⟨_, _, _, _, _, _, _⟩ := nearAgrees
      obtain ⟨_, _⟩ := catches
      obtain ⟨_, _⟩ := covers
      obtain ⟨_, _, _⟩ := records
      grind

theorem Act.published_far (act : Act rules near far near' far') (farNames : Naming far near)
    (farAgrees : Agreement far.call far.link near.link) (records : Recorded far)
    (catches : Catching far.call far.link near.link far.memories.length)
    (covers : Coverage far near.call near.link) :
    ∀ link other memory version turn, Paired far'.link near'.link link other →
      link.ready = true → far'.call = some (.notifying memory version turn) →
      turn = .pending link.id ∨ (∃ status, turn = .told link.id status ∧ status ≠ .answered ()) ∨
        Brought far'.memories near'.call other memory := by
  cases act with
  | acceptNew | acceptPending | acceptAgain | refuseOffer | acceptUpdate | refuseUpdate
  | acceptClose | ignoreClose => simp
  | create | dial | join | abandonOffer | finish | abandonUpdate | publish | notify
  | acceptNotice | refuseNotice | pass | published | abandonPublish | drop | closed =>
      obtain ⟨_, _, _, _, _, _, _⟩ := farNames
      obtain ⟨_, _, _, _, _, _, _⟩ := farAgrees
      obtain ⟨_, _⟩ := catches
      obtain ⟨_, _⟩ := covers
      obtain ⟨_, _, _⟩ := records
      grind

/-- Everything that a party owes the other, in any run. -/
structure Orderly (near far : Side Id Memory) : Prop where
  names : Naming near far
  agrees : Agreement near.call near.link far.link
  records : Recorded near
  catches : Catching near.call near.link far.link near.memories.length
  covers : Coverage near far.call far.link

/-- Parties that have done nothing. -/
theorem Orderly.start : Orderly ({} : Side Id Memory) {} where
  names := by constructor <;> simp
  agrees := by constructor <;> simp
  records := by constructor <;> simp
  catches := by constructor <;> grind
  covers := by constructor <;> simp

theorem Act.orderly (act : Act rules near far near' far') (nearOrderly : Orderly near far)
    (farOrderly : Orderly far near) : Orderly near' far' ∧ Orderly far' near' := by
  obtain ⟨nearNames, nearAgrees, nearRecords, nearCatches, nearCovers⟩ := nearOrderly
  obtain ⟨farNames, farAgrees, farRecords, farCatches, farCovers⟩ := farOrderly
  have records := act.recorded nearRecords farRecords
  refine ⟨⟨act.naming_near nearNames farNames, ?_, records.1, ?_, ?_, ?_⟩,
    ⟨act.naming_far nearNames farNames, ?_, records.2, ?_, ?_, ?_⟩⟩
  · exact act.agreement_near nearNames farNames nearAgrees farAgrees
  · exact act.catching_near farNames nearAgrees farAgrees nearCatches
  · exact act.brought_near nearAgrees nearRecords nearCatches nearCovers
  · exact act.published_near nearAgrees nearRecords nearCatches nearCovers
  · exact act.agreement_far nearNames farNames nearAgrees farAgrees
  · exact act.catching_far farNames nearAgrees farAgrees farRecords nearCatches farCatches
  · exact act.brought_far farNames farAgrees farRecords farCatches farCovers
  · exact act.published_far farNames farAgrees farRecords farCatches farCovers

end Session
