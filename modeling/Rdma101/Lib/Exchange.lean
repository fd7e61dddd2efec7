/-
Module: Rdma101.Lib.Exchange
Purpose: Members that go through the same sequence of exchange rounds over one FIFO queue for each
  ordered pair.  In a round a member sends one value to each of its targets and then takes one value
  from the queue of each of its sources; nobody waits for the others to enter or leave a round.
Trusted boundary: none
Main exports: Exchange, Exchange.Matching, Net, Step, Consistent, Consistent.step,
  Consistent.progress
-/
import Mathlib.Data.List.Forall2
import Mathlib.Logic.Function.Basic
import Mathlib.Order.WellFounded
import Mathlib.Data.Nat.Basic

/-- Whom each member sends to in a round, and from whom it then receives, both in order. -/
structure Exchange (ι : Type*) where
  targets : ι → List ι
  sources : ι → List ι

namespace Exchange

variable {ι V : Type*}

/-- Every value that is sent has its receiver in the same round, and the other way round. -/
structure Matching (round : Exchange ι) : Prop where
  nodupTargets : ∀ member, (round.targets member).Nodup
  nodupSources : ∀ member, (round.sources member).Nodup
  matched : ∀ sender receiver, receiver ∈ round.targets sender ↔ sender ∈ round.sources receiver

/-- A round that a member is in: its value, whom it still has to send to, what it has received,
and from whom it still has to receive. -/
structure Ongoing (ι V : Type*) where
  value : V
  unsent : List ι
  received : List V
  awaited : List ι

/-- The rounds that a member has left, with its value and what it received, and the one it is in. -/
structure Member (ι V : Type*) where
  finished : List (V × List V)
  current : Option (Ongoing ι V)

/-- The values that the member has passed, one for each round it has entered. -/
def Member.passed (member : Member ι V) : List V :=
  member.finished.map Prod.fst ++ member.current.toList.map Ongoing.value

/-- The number of the round that the member is in or enters next. -/
def Member.round (member : Member ι V) : Nat := member.finished.length

/-- The member has dealt with `other` in a round, where `left` says whom an ongoing round still has
to deal with. -/
def Member.Done (left : Ongoing ι V → List ι) (member : Member ι V) (round : Nat) (other : ι) :
    Prop :=
  round < member.round ∨
    (round = member.round ∧ ∃ ongoing, member.current = some ongoing ∧ other ∉ left ongoing)

/-- The member has sent its value of a round to a target of that round. -/
abbrev Member.Sent : Member ι V → Nat → ι → Prop := Member.Done Ongoing.unsent

/-- The member has received the value of a round from a source of that round. -/
abbrev Member.Received : Member ι V → Nat → ι → Prop := Member.Done Ongoing.awaited

section Done

variable {left : Ongoing ι V → List ι} {other : ι} {member : Member ι V}
  {ongoing : Ongoing ι V} {round : Nat}

/-- A member that enters a round has not dealt with anybody of that round. -/
theorem done_enter (idle : member.current = none)
    (planned : round = member.round → other ∈ left ongoing) :
    Member.Done left { member with current := some ongoing } round other ↔
      member.Done left round other := by
  constructor
  · rintro (before | ⟨at_, _, ⟨⟩, dealt⟩)
    · exact .inl before
    · exact absurd (planned at_) dealt
  · rintro (before | ⟨_, _, inside, _⟩)
    · exact .inl before
    · rw [idle] at inside
      cases inside

/-- A member that leaves a round has dealt with everybody of that round. -/
theorem done_leave {entry : V × List V} (inside : member.current = some ongoing)
    (none_ : left ongoing = []) :
    Member.Done left ⟨member.finished ++ [entry], none⟩ round other ↔
      member.Done left round other := by
  have recorded : (member.finished ++ [entry]).length = member.finished.length + 1 := by simp
  simp only [Member.Done, Member.round, inside, none_, recorded, Nat.lt_succ_iff_lt_or_eq,
    Option.some.injEq, exists_eq_left', List.not_mem_nil, not_false_eq_true, and_true,
    reduceCtorEq, false_and, exists_false, and_false, or_false]

/-- A member deals with the first one that is left. -/
theorem done_advance {next : Ongoing ι V} {first : ι} {rest : List ι}
    (inside : member.current = some ongoing) (before : left ongoing = first :: rest)
    (once : first ∉ rest) (after : left next = rest) :
    Member.Done left { member with current := some next } round other ↔
      member.Done left round other ∨ (other = first ∧ round = member.round) := by
  simp only [Member.Done, Member.round, inside, Option.some.injEq, exists_eq_left', before, after,
    List.mem_cons]
  grind

theorem done_unchanged {next : Ongoing ι V} (inside : member.current = some ongoing)
    (same : left next = left ongoing) :
    Member.Done left { member with current := some next } round other ↔
      member.Done left round other := by
  simp [Member.Done, Member.round, inside, same]

end Done

/-- The members and the queue for each pair, from the sender to the receiver. -/
structure Net (ι V : Type*) where
  members : ι → Member ι V
  queues : ι → ι → List V

/-- The member with this name passed this value to this round. -/
def Net.Passed (net : Net ι V) (round : Nat) (name : ι) (value : V) : Prop :=
  (net.members name).passed[round]? = some value

/-- A value of this round is under way. -/
structure Net.Pending (rounds : List (Exchange ι)) (net : Net ι V) (sender receiver : ι)
    (round : Nat) : Prop where
  planned : ∃ exchange, rounds[round]? = some exchange ∧ receiver ∈ exchange.targets sender
  sent : (net.members sender).Sent round receiver
  outstanding : ¬(net.members receiver).Received round sender

/-- What ties a round that a member is in to its plan, where `passed` says who passed what to that
round. -/
structure Ongoing.Follows (ongoing : Ongoing ι V) (passed : ι → V → Prop)
    (targets sources : List ι) :
    Prop where
  targets : ∃ done, targets = done ++ ongoing.unsent
  sources : ∃ done, sources = done ++ ongoing.awaited ∧ List.Forall₂ passed done ongoing.received

/-- The invariant: every queue holds exactly the values of the rounds that are under way, in the
order of the rounds, and everything that was received is the value of the same round. -/
structure Consistent (rounds : List (Exchange ι)) (net : Net ι V) : Prop where
  bounded : ∀ name, (net.members name).round ≤ rounds.length
  follows : ∀ name ongoing, (net.members name).current = some ongoing →
    ∃ exchange, rounds[(net.members name).round]? = some exchange ∧
      ongoing.Follows (net.Passed (net.members name).round) (exchange.targets name)
        (exchange.sources name)
  finished : ∀ name round entry, (net.members name).finished[round]? = some entry →
    ∃ exchange, rounds[round]? = some exchange ∧
      List.Forall₂ (net.Passed round) (exchange.sources name) entry.2
  received : ∀ sender receiver round exchange, rounds[round]? = some exchange →
    receiver ∈ exchange.targets sender → (net.members receiver).Received round sender →
    (net.members sender).Sent round receiver
  queued : ∀ sender receiver, ∃ underWay : List Nat, underWay.Pairwise (· < ·) ∧
    (∀ round, round ∈ underWay ↔ net.Pending rounds sender receiver round) ∧
    List.Forall₂ (fun round value => net.Passed round sender value) underWay
      (net.queues sender receiver)

theorem Ongoing.Follows.mono {ongoing : Ongoing ι V} {passed passed' : ι → V → Prop}
    {targets sources : List ι} (follows : ongoing.Follows passed targets sources)
    (more : ∀ name value, passed name value → passed' name value) :
    ongoing.Follows passed' targets sources := by
  obtain ⟨done, same, values⟩ := follows.sources
  exact ⟨follows.targets, done, same, values.imp more⟩

theorem Net.pending_congr {rounds : List (Exchange ι)} {net net' : Net ι V}
    {sender receiver : ι} {round : Nat}
    (same : ∀ exchange, rounds[round]? = some exchange → receiver ∈ exchange.targets sender →
      ((net'.members sender).Sent round receiver ↔ (net.members sender).Sent round receiver) ∧
      ((net'.members receiver).Received round sender ↔
        (net.members receiver).Received round sender)) :
    net'.Pending rounds sender receiver round ↔ net.Pending rounds sender receiver round := by
  constructor
  · rintro ⟨⟨exchange, planned, target⟩, sent, outstanding⟩
    obtain ⟨sameSent, sameReceived⟩ := same exchange planned target
    exact ⟨⟨exchange, planned, target⟩, sameSent.mp sent, fun received =>
      outstanding (sameReceived.mpr received)⟩
  · rintro ⟨⟨exchange, planned, target⟩, sent, outstanding⟩
    obtain ⟨sameSent, sameReceived⟩ := same exchange planned target
    exact ⟨⟨exchange, planned, target⟩, sameSent.mpr sent, fun received =>
      outstanding (sameReceived.mp received)⟩

/-- The value that a member sends is the one it passed to the round it is in. -/
theorem passed_current {net : Net ι V} {name : ι} {ongoing : Ongoing ι V}
    (inside : (net.members name).current = some ongoing) :
    net.Passed (net.members name).round name ongoing.value := by
  simp [Net.Passed, Member.passed, Member.round, inside]

/-- The oldest value in the queue of a source is the one of the round that the receiver is in. -/
theorem Consistent.head_underWay {rounds : List (Exchange ι)} {net : Net ι V} {name : ι}
    {ongoing : Ongoing ι V} (consistent : Consistent rounds net)
    (matching : ∀ round ∈ rounds, round.Matching) {source : ι} {rest : List ι} {value : V}
    {queue : List V} (inside : (net.members name).current = some ongoing)
    (awaited : ongoing.awaited = source :: rest)
    (queued : net.queues source name = value :: queue) :
    net.Pending rounds source name (net.members name).round ∧
      net.Passed (net.members name).round source value ∧
      ∃ later : List Nat, later.Pairwise (· < ·) ∧
        (∀ round, round ∈ later ↔ round ≠ (net.members name).round ∧
          net.Pending rounds source name round) ∧
        List.Forall₂ (fun round value => net.Passed round source value) later queue := by
  obtain ⟨exchange, planned, follows⟩ := consistent.follows name ongoing inside
  obtain ⟨done, sources, -⟩ := follows.sources
  have isSource : source ∈ exchange.sources name := by
    rw [sources, awaited]
    exact List.mem_append_right done (.head rest)
  have isTarget := ((matching exchange (List.mem_of_getElem? planned)).matched _ _).mpr isSource
  have outstanding : ¬(net.members name).Received (net.members name).round source := by
    simp [Member.Done, inside, awaited]
  obtain ⟨underWay, ordered, exactly, values⟩ := consistent.queued source name
  rw [queued] at values
  cases values with
  | @cons first _ later _ head tail =>
      obtain ⟨least, ordered'⟩ := List.pairwise_cons.mp ordered
      have pending := (exactly first).mp (.head later)
      -- No earlier round is outstanding, and a later one comes after this one in the queue.
      have notBefore : (net.members name).round ≤ first :=
        Nat.le_of_not_lt fun before => pending.outstanding (.inl before)
      obtain rfl : first = (net.members name).round := by
        rcases Nat.lt_or_eq_of_le notBefore with after | same
        · have sent : (net.members source).Sent (net.members name).round name := by
            rcases pending.sent with before | ⟨same, -⟩
            · exact .inl (after.trans before)
            · exact .inl (same ▸ after)
          have member := (exactly _).mpr ⟨⟨exchange, planned, isTarget⟩, sent, outstanding⟩
          rcases List.mem_cons.mp member with same | inLater
          · exact same.symm
          · exact absurd (least _ inLater) (Nat.lt_asymm after)
        · exact same.symm
      refine ⟨pending, head, later, ordered', fun round => ?_, tail⟩
      rw [← exactly round, List.mem_cons]
      constructor
      · exact fun member => ⟨Nat.ne_of_gt (least round member), .inr member⟩
      · rintro ⟨other, same | member⟩
        · exact absurd same other
        · exact member

/-- Nobody has entered a round. -/
def Net.start : Net ι V := ⟨fun _ => ⟨[], none⟩, fun _ _ => []⟩

theorem consistent_start {rounds : List (Exchange ι)} :
    Consistent rounds (Net.start : Net ι V) where
  bounded _ := Nat.zero_le _
  follows _ _ inside := by cases inside
  finished _ _ _ left := by simp [Net.start] at left
  received _ _ _ _ _ _ received := by
    rcases received with before | ⟨-, _, inside, -⟩
    · exact absurd before (Nat.not_lt_zero _)
    · cases inside
  queued sender receiver := by
    refine ⟨[], .nil,
      fun round => ⟨fun member => (List.not_mem_nil member).elim, fun pending => ?_⟩,
      .nil⟩
    rcases pending.sent with before | ⟨-, _, inside, -⟩
    · exact absurd before (Nat.not_lt_zero _)
    · cases inside

/-- When everybody has left the last round, nothing is under way. -/
theorem Consistent.empty {rounds : List (Exchange ι)} {net : Net ι V}
    (consistent : Consistent rounds net)
    (finished : ∀ name, (net.members name).round = rounds.length) (sender receiver : ι) :
    net.queues sender receiver = [] := by
  obtain ⟨underWay, -, exactly, values⟩ := consistent.queued sender receiver
  cases underWay with
  | nil => exact List.forall₂_nil_left_iff.mp values
  | cons round later =>
      have pending := (exactly round).mp (.head later)
      obtain ⟨exchange, planned, -⟩ := pending.planned
      have below := (List.getElem?_eq_some_iff.mp planned).1
      exact absurd (.inl (finished receiver ▸ below)) pending.outstanding

variable [DecidableEq ι]

def Net.setMember (net : Net ι V) (name : ι) (member : Member ι V) : Net ι V :=
  { net with members := Function.update net.members name member }

/-- The member is in a round, and has got this far. -/
def Net.setCurrent (net : Net ι V) (name : ι) (ongoing : Ongoing ι V) : Net ι V :=
  net.setMember name { net.members name with current := some ongoing }

def Net.setQueue (net : Net ι V) (sender receiver : ι) (queue : List V) : Net ι V :=
  { net with queues := fun sender' receiver' =>
      if sender' = sender ∧ receiver' = receiver then queue else net.queues sender' receiver' }

/-- The steps of the members. -/
inductive Step (rounds : List (Exchange ι)) (net : Net ι V) : Net ι V → Prop where
  | enter {name : ι} {round : Exchange ι} (value : V)
      (idle : (net.members name).current = none)
      (next : rounds[(net.members name).round]? = some round) :
      Step rounds net
        (net.setCurrent name ⟨value, round.targets name, [], round.sources name⟩)
  | send {name target : ι} {ongoing : Ongoing ι V} {rest : List ι}
      (inside : (net.members name).current = some ongoing)
      (unsent : ongoing.unsent = target :: rest) :
      Step rounds net ((net.setCurrent name { ongoing with unsent := rest }).setQueue name target
        (net.queues name target ++ [ongoing.value]))
  | receive {name source : ι} {ongoing : Ongoing ι V} {rest : List ι} {value : V} {queue : List V}
      (inside : (net.members name).current = some ongoing) (sentAll : ongoing.unsent = [])
      (awaited : ongoing.awaited = source :: rest)
      (queued : net.queues source name = value :: queue) :
      Step rounds net ((net.setCurrent name
        { ongoing with received := ongoing.received ++ [value], awaited := rest }).setQueue source
          name queue)
  | leave {name : ι} {ongoing : Ongoing ι V}
      (inside : (net.members name).current = some ongoing) (sentAll : ongoing.unsent = [])
      (receivedAll : ongoing.awaited = []) :
      Step rounds net (net.setMember name
        ⟨(net.members name).finished ++ [(ongoing.value, ongoing.received)], none⟩)

/-! ### One step

The state is changed in one member and one queue at a time.  What a step leaves alone is
collected here, so that the four steps below only have to say what is new. -/

section Members

variable {net net' : Net ι V} {name other : ι} {member : Member ι V}

@[simp] theorem Net.members_setMember :
    (net.setMember name member).members other =
      if other = name then member else net.members other := by
  simp [Net.setMember, Function.update_apply]

@[simp] theorem Net.members_setCurrent {ongoing : Ongoing ι V} :
    (net.setCurrent name ongoing).members other =
      if other = name then { net.members name with current := some ongoing }
      else net.members other :=
  Net.members_setMember

@[simp] theorem Net.finished_setCurrent {ongoing : Ongoing ι V} :
    ((net.setCurrent name ongoing).members other).finished = (net.members other).finished := by
  by_cases self : other = name
  · subst self
    simp
  · simp [self]

@[simp] theorem Net.round_setCurrent {ongoing : Ongoing ι V} :
    ((net.setCurrent name ongoing).members other).round = (net.members other).round := by
  rw [Member.round, Net.finished_setCurrent, Member.round]

@[simp] theorem Net.queues_setCurrent {ongoing : Ongoing ι V} :
    (net.setCurrent name ongoing).queues = net.queues := rfl

@[simp] theorem Net.queues_setMember : (net.setMember name member).queues = net.queues := rfl

@[simp] theorem Net.members_setQueue {sender receiver : ι} {queue : List V} :
    (net.setQueue sender receiver queue).members = net.members := rfl

@[simp] theorem Net.queues_setQueue {sender receiver sender' receiver' : ι} {queue : List V} :
    (net.setQueue sender receiver queue).queues sender' receiver' =
      if sender' = sender ∧ receiver' = receiver then queue
      else net.queues sender' receiver' := rfl

end Members

variable {rounds : List (Exchange ι)} {net net' : Net ι V}

/-- What was passed to a round stays. -/
theorem Step.passed {round : Nat} {name : ι} {value : V} (step : Step rounds net net')
    (passed : net.Passed round name value) : net'.Passed round name value := by
  have kept : ∀ {member : Member ι V} (actor : ι), (net.members actor).passed <+: member.passed →
      (net.setMember actor member).Passed round name value := by
    intro member actor extended
    by_cases same : name = actor
    · subst same
      obtain ⟨more, extended⟩ := extended
      have bound := (List.getElem?_eq_some_iff.mp passed).1
      rw [Net.Passed, Net.members_setMember, if_pos rfl, ← extended,
        List.getElem?_append_left bound]
      exact passed
    · simpa [Net.Passed, same] using passed
  cases step with
  | enter entered idle next =>
      apply kept _
      simp [Member.passed, idle]
  | send inside unsent | receive inside sentAll awaited queued =>
      apply kept _
      simp [Member.passed, inside]
  | leave inside sentAll receivedAll =>
      apply kept _
      simp [Member.passed, inside]

section Done

variable {left : Ongoing ι V → List ι} {name actor other : ι} {member : Member ι V} {round : Nat}

theorem done_setMember
    (same : member.Done left round other ↔ (net.members actor).Done left round other) :
    ((net.setMember actor member).members name).Done left round other ↔
      (net.members name).Done left round other := by
  by_cases self : name = actor
  · subst self
    simpa using same
  · simp [self]

theorem done_setMember_advance {first : ι}
    (added : member.Done left round other ↔ (net.members actor).Done left round other ∨
      (other = first ∧ round = (net.members actor).round)) :
    ((net.setMember actor member).members name).Done left round other ↔
      (net.members name).Done left round other ∨
        (name = actor ∧ other = first ∧ round = (net.members actor).round) := by
  by_cases self : name = actor
  · subst self
    simpa using added
  · simp [self]

end Done

/-- A step that deals with nobody keeps what is known of the queues. -/
theorem Consistent.queued_of_same (consistent : Consistent rounds net)
    (step : Step rounds net net') {sender receiver : ι}
    (sameQueue : net'.queues sender receiver = net.queues sender receiver)
    (samePending : ∀ round, net'.Pending rounds sender receiver round ↔
      net.Pending rounds sender receiver round) :
    ∃ underWay : List Nat, underWay.Pairwise (· < ·) ∧
      (∀ round, round ∈ underWay ↔ net'.Pending rounds sender receiver round) ∧
      List.Forall₂ (fun round value => net'.Passed round sender value) underWay
        (net'.queues sender receiver) := by
  obtain ⟨underWay, ordered, exactly, values⟩ := consistent.queued sender receiver
  refine ⟨underWay, ordered, fun round => (exactly round).trans (samePending round).symm, ?_⟩
  rw [sameQueue]
  exact values.imp fun _ _ passed => step.passed passed

/-- The rounds that were left before a step. -/
theorem Consistent.finished_step (consistent : Consistent rounds net)
    (step : Step rounds net net') {name : ι} {round : Nat} {entry : V × List V}
    (left : (net.members name).finished[round]? = some entry) :
    ∃ exchange, rounds[round]? = some exchange ∧
      List.Forall₂ (net'.Passed round) (exchange.sources name) entry.2 := by
  obtain ⟨exchange, planned, values⟩ := consistent.finished name round entry left
  exact ⟨exchange, planned, values.imp fun _ _ passed => step.passed passed⟩

/-- The round that a member was in before a step. -/
theorem Consistent.follows_step (consistent : Consistent rounds net)
    (step : Step rounds net net') {name : ι} {ongoing : Ongoing ι V}
    (inside : (net.members name).current = some ongoing) :
    ∃ exchange, rounds[(net.members name).round]? = some exchange ∧
      ongoing.Follows (net'.Passed (net.members name).round) (exchange.targets name)
        (exchange.sources name) := by
  obtain ⟨exchange, planned, follows⟩ := consistent.follows name ongoing inside
  exact ⟨exchange, planned, follows.mono fun _ _ passed => step.passed passed⟩

/-! ### The four steps keep the invariant

Entering and leaving a round move no value.  A send appends the value of the sender's round
behind older ones, and a receive takes the oldest, which by the invariant is of the receiver's
round. -/

section Steps

variable {name : ι} {exchange : Exchange ι} {ongoing : Ongoing ι V}

theorem Consistent.enter (consistent : Consistent rounds net)
    (matching : ∀ round ∈ rounds, round.Matching) (value : V)
    (idle : (net.members name).current = none)
    (next : rounds[(net.members name).round]? = some exchange) :
    Consistent rounds
      (net.setCurrent name ⟨value, exchange.targets name, [], exchange.sources name⟩) := by
  have step := Step.enter value idle next
  generalize entered : Ongoing.mk value (exchange.targets name) [] (exchange.sources name) =
    ongoing at step
  -- Nobody has dealt with anybody in a round that was just entered.
  have quiet : ∀ (sender receiver : ι) (round : Nat) (planned : Exchange ι),
      rounds[round]? = some planned → receiver ∈ planned.targets sender →
      (((net.setCurrent name ongoing).members sender).Sent round receiver ↔
        (net.members sender).Sent round receiver) ∧
      (((net.setCurrent name ongoing).members receiver).Received round sender ↔
        (net.members receiver).Received round sender) := by
    intro sender receiver round planned plan target
    have source := ((matching planned (List.mem_of_getElem? plan)).matched _ _).mp target
    constructor
    · by_cases self : sender = name
      · subst self
        refine done_setMember (done_enter idle ?_)
        rintro rfl
        rw [← entered]
        exact Option.some.inj (plan.symm.trans next) ▸ target
      · simp [self]
    · by_cases self : receiver = name
      · subst self
        refine done_setMember (done_enter idle ?_)
        rintro rfl
        rw [← entered]
        exact Option.some.inj (plan.symm.trans next) ▸ source
      · simp [self]
  refine ⟨?_, ?_, ?_, ?_, ?_⟩
  · intro other
    rw [Net.round_setCurrent]
    exact consistent.bounded other
  · intro other inner inside
    rw [Net.round_setCurrent]
    by_cases self : other = name
    · subst self
      simp only [Net.members_setCurrent, if_pos, Option.some.injEq] at inside
      subst inside entered
      exact ⟨exchange, next, ⟨[], rfl⟩, [], rfl, .nil⟩
    · rw [Net.members_setCurrent, if_neg self] at inside
      exact consistent.follows_step step inside
  · intro other round entry left
    rw [Net.finished_setCurrent] at left
    exact consistent.finished_step step left
  · intro sender receiver round planned plan target received
    obtain ⟨sameSent, sameReceived⟩ := quiet sender receiver round planned plan target
    exact sameSent.mpr (consistent.received sender receiver round planned plan target
      (sameReceived.mp received))
  · intro sender receiver
    exact consistent.queued_of_same step rfl fun round =>
      Net.pending_congr fun planned plan target => quiet sender receiver round planned plan target

theorem Consistent.leave (consistent : Consistent rounds net)
    (inside : (net.members name).current = some ongoing) (sentAll : ongoing.unsent = [])
    (receivedAll : ongoing.awaited = []) :
    Consistent rounds (net.setMember name
      ⟨(net.members name).finished ++ [(ongoing.value, ongoing.received)], none⟩) := by
  have step : Step rounds net _ := .leave inside sentAll receivedAll
  obtain ⟨exchange, planned, follows⟩ := consistent.follows_step step inside
  -- Everybody has been dealt with in the round that is left.
  have sent : ∀ (sender receiver : ι) (round : Nat),
      ((net.setMember name ⟨(net.members name).finished ++ [(ongoing.value, ongoing.received)],
        none⟩).members sender).Sent round receiver ↔ (net.members sender).Sent round receiver :=
    fun sender receiver round => done_setMember (done_leave inside sentAll)
  have received : ∀ (sender receiver : ι) (round : Nat),
      ((net.setMember name ⟨(net.members name).finished ++ [(ongoing.value, ongoing.received)],
        none⟩).members receiver).Received round sender ↔
        (net.members receiver).Received round sender :=
    fun sender receiver round => done_setMember (done_leave inside receivedAll)
  refine ⟨?_, ?_, ?_, ?_, ?_⟩
  · intro other
    by_cases self : other = name
    · subst self
      have below := (List.getElem?_eq_some_iff.mp planned).1
      simpa [Member.round] using Nat.succ_le_of_lt below
    · simpa [self] using consistent.bounded other
  · intro other inner inside'
    by_cases self : other = name
    · subst self
      simp at inside'
    · rw [Net.members_setMember, if_neg self] at inside' ⊢
      exact consistent.follows_step step inside'
  · intro other round entry left
    by_cases self : other = name
    · subst self
      simp only [Net.members_setMember, if_pos] at left
      rcases Nat.lt_or_ge round (net.members other).finished.length with before | after
      · rw [List.getElem?_append_left before] at left
        exact consistent.finished_step step left
      · rw [List.getElem?_append_right after, List.getElem?_singleton] at left
        obtain ⟨last, rfl⟩ : round - (net.members other).finished.length = 0 ∧
            (ongoing.value, ongoing.received) = entry := by
          split_ifs at left with last
          exact ⟨last, Option.some.inj left⟩
        obtain rfl : round = (net.members other).round :=
          Nat.le_antisymm (Nat.sub_eq_zero_iff_le.mp last) after
        obtain ⟨done, same, values⟩ := follows.sources
        rw [receivedAll, List.append_nil] at same
        exact ⟨exchange, planned, same ▸ values⟩
    · rw [Net.members_setMember, if_neg self] at left
      exact consistent.finished_step step left
  · intro sender receiver round planned plan target received'
    exact (sent sender receiver round).mpr (consistent.received sender receiver round planned plan
      target ((received sender receiver round).mp received'))
  · intro sender receiver
    exact consistent.queued_of_same step rfl fun round => Net.pending_congr fun _ _ _ =>
      ⟨sent sender receiver round, received sender receiver round⟩

theorem Consistent.send (consistent : Consistent rounds net)
    (matching : ∀ round ∈ rounds, round.Matching) {target : ι} {rest : List ι}
    (inside : (net.members name).current = some ongoing)
    (unsent : ongoing.unsent = target :: rest) :
    Consistent rounds ((net.setCurrent name { ongoing with unsent := rest }).setQueue name target
      (net.queues name target ++ [ongoing.value])) := by
  have step : Step rounds net _ := .send inside unsent
  obtain ⟨exchange, planned, follows⟩ := consistent.follows_step step inside
  obtain ⟨done, targets⟩ := follows.targets
  have matched := matching exchange (List.mem_of_getElem? planned)
  have once : target ∉ rest := by
    have nodup := matched.nodupTargets name
    rw [targets, unsent] at nodup
    exact (List.nodup_cons.mp (List.nodup_append.mp nodup).2.1).1
  have isTarget : target ∈ exchange.targets name := by
    rw [targets, unsent]
    exact List.mem_append_right done (.head rest)
  have sent : ∀ (sender receiver : ι) (round : Nat),
      ((net.setCurrent name { ongoing with unsent := rest }).members sender).Sent round receiver ↔
        (net.members sender).Sent round receiver ∨
          (sender = name ∧ receiver = target ∧ round = (net.members name).round) :=
    fun sender receiver round => done_setMember_advance (done_advance inside unsent once rfl)
  have received : ∀ (sender receiver : ι) (round : Nat),
      ((net.setCurrent name { ongoing with unsent := rest }).members receiver).Received round
        sender ↔ (net.members receiver).Received round sender :=
    fun sender receiver round => done_setMember (done_unchanged inside rfl)
  -- The target of a value that is not yet sent has not received it.
  have fresh : ¬(net.members name).Sent (net.members name).round target := by
    simp [Member.Done, inside, unsent]
  have outstanding : ¬(net.members target).Received (net.members name).round name := fun early =>
    fresh (consistent.received name target _ exchange planned isTarget early)
  refine ⟨?_, ?_, ?_, ?_, ?_⟩
  · intro other
    rw [Net.members_setQueue, Net.round_setCurrent]
    exact consistent.bounded other
  · intro other inner inside'
    rw [Net.members_setQueue] at inside' ⊢
    rw [Net.round_setCurrent]
    by_cases self : other = name
    · subst self
      simp only [Net.members_setCurrent, if_pos, Option.some.injEq] at inside'
      subst inside'
      refine ⟨exchange, planned, ⟨done ++ [target], ?_⟩, follows.sources⟩
      rw [targets, unsent, List.append_assoc]
      rfl
    · rw [Net.members_setCurrent, if_neg self] at inside'
      exact consistent.follows_step step inside'
  · intro other round entry left
    rw [Net.members_setQueue, Net.finished_setCurrent] at left
    exact consistent.finished_step step left
  · intro sender receiver round exchange' plan target' received'
    refine (sent sender receiver round).mpr (.inl ?_)
    exact consistent.received sender receiver round exchange' plan target'
      ((received sender receiver round).mp received')
  · intro sender receiver
    by_cases pair : sender = name ∧ receiver = target
    · obtain ⟨rfl, rfl⟩ := pair
      obtain ⟨underWay, ordered, exactly, values⟩ := consistent.queued sender receiver
      have earlier : ∀ round ∈ underWay, round < (net.members sender).round := by
        intro round member
        have pending := (exactly round).mp member
        rcases pending.sent with before | ⟨rfl, _⟩
        · exact before
        · exact absurd pending.sent fresh
      refine ⟨underWay ++ [(net.members sender).round], ?_, ?_, ?_⟩
      · exact List.pairwise_append.mpr ⟨ordered, List.pairwise_singleton _ _,
          fun round member last isLast => by
            rw [List.mem_singleton] at isLast
            exact isLast ▸ earlier round member⟩
      · intro round
        rw [List.mem_append, List.mem_singleton, exactly round]
        constructor
        · rintro (pending | rfl)
          · exact ⟨pending.planned, (sent _ _ _).mpr (.inl pending.sent),
              fun early => pending.outstanding ((received _ _ _).mp early)⟩
          · exact ⟨⟨exchange, planned, isTarget⟩, (sent _ _ _).mpr (.inr ⟨rfl, rfl, rfl⟩),
              fun early => outstanding ((received _ _ _).mp early)⟩
        · rintro ⟨plan, sent', late⟩
          rcases (sent _ _ _).mp sent' with before | ⟨-, -, rfl⟩
          · exact .inl ⟨plan, before, fun early => late ((received _ _ _).mpr early)⟩
          · exact .inr rfl
      · rw [Net.queues_setQueue, if_pos ⟨rfl, rfl⟩]
        refine List.rel_append (values.imp fun _ _ passed => step.passed passed) (.cons ?_ .nil)
        exact step.passed (passed_current inside)
    · refine consistent.queued_of_same step (if_neg pair) fun round => Net.pending_congr
        fun _ _ _ => ⟨(sent sender receiver round).trans ?_, received sender receiver round⟩
      exact or_iff_left fun ⟨same, same', _⟩ => pair ⟨same, same'⟩

theorem Consistent.receive (consistent : Consistent rounds net)
    (matching : ∀ round ∈ rounds, round.Matching) {source : ι} {rest : List ι} {value : V}
    {queue : List V} (inside : (net.members name).current = some ongoing)
    (sentAll : ongoing.unsent = []) (awaited : ongoing.awaited = source :: rest)
    (queued : net.queues source name = value :: queue) :
    Consistent rounds ((net.setCurrent name
      { ongoing with received := ongoing.received ++ [value], awaited := rest }).setQueue source
        name queue) := by
  have step : Step rounds net _ := .receive inside sentAll awaited queued
  obtain ⟨exchange, planned, follows⟩ := consistent.follows_step step inside
  obtain ⟨done, sources, received⟩ := follows.sources
  obtain ⟨pending, head, later, ordered, exactly, values⟩ :=
    consistent.head_underWay matching inside awaited queued
  have matched := matching exchange (List.mem_of_getElem? planned)
  have once : source ∉ rest := by
    have nodup := matched.nodupSources name
    rw [sources, awaited] at nodup
    exact (List.nodup_cons.mp (List.nodup_append.mp nodup).2.1).1
  have sameSent : ∀ (sender receiver : ι) (round : Nat),
      ((net.setCurrent name { ongoing with
        received := ongoing.received ++ [value], awaited := rest }).members sender).Sent round
          receiver ↔ (net.members sender).Sent round receiver :=
    fun sender receiver round => done_setMember (done_unchanged inside rfl)
  have nowReceived : ∀ (sender receiver : ι) (round : Nat),
      ((net.setCurrent name { ongoing with
        received := ongoing.received ++ [value], awaited := rest }).members receiver).Received round
          sender ↔ (net.members receiver).Received round sender ∨
            (receiver = name ∧ sender = source ∧ round = (net.members name).round) :=
    fun sender receiver round => done_setMember_advance (done_advance inside awaited once rfl)
  refine ⟨?_, ?_, ?_, ?_, ?_⟩
  · intro other
    rw [Net.members_setQueue, Net.round_setCurrent]
    exact consistent.bounded other
  · intro other inner inside'
    rw [Net.members_setQueue] at inside' ⊢
    rw [Net.round_setCurrent]
    by_cases self : other = name
    · subst self
      simp only [Net.members_setCurrent, if_pos, Option.some.injEq] at inside'
      subst inside'
      refine ⟨exchange, planned, follows.targets, done ++ [source], ?_, ?_⟩
      · rw [sources, awaited, List.append_assoc]
        rfl
      · exact List.rel_append received (.cons (step.passed head) .nil)
    · rw [Net.members_setCurrent, if_neg self] at inside'
      exact consistent.follows_step step inside'
  · intro other round entry left
    rw [Net.members_setQueue, Net.finished_setCurrent] at left
    exact consistent.finished_step step left
  · intro sender receiver round exchange' plan target received'
    apply (sameSent sender receiver round).mpr
    rcases (nowReceived sender receiver round).mp received' with before | ⟨rfl, rfl, rfl⟩
    · exact consistent.received sender receiver round exchange' plan target before
    · exact pending.sent
  · intro sender receiver
    by_cases pair : sender = source ∧ receiver = name
    · obtain ⟨rfl, rfl⟩ := pair
      refine ⟨later, ordered, fun round => (exactly round).trans ?_, ?_⟩
      · constructor
        · rintro ⟨other, plan, sent, late⟩
          refine ⟨plan, (sameSent _ _ _).mpr sent, fun early => ?_⟩
          rcases (nowReceived _ _ _).mp early with before | ⟨-, -, same⟩
          · exact late before
          · exact other same
        · rintro ⟨plan, sent, late⟩
          refine ⟨fun same => late ((nowReceived _ _ _).mpr (.inr ⟨rfl, rfl, same⟩)), plan,
            (sameSent _ _ _).mp sent, fun early => late ((nowReceived _ _ _).mpr (.inl early))⟩
      · rw [Net.queues_setQueue, if_pos ⟨rfl, rfl⟩]
        exact values.imp fun _ _ passed => step.passed passed
    · refine consistent.queued_of_same step (if_neg pair) fun round => Net.pending_congr
        fun _ _ _ => ⟨sameSent sender receiver round, (nowReceived sender receiver round).trans ?_⟩
      exact or_iff_left fun ⟨same, same', _⟩ => pair ⟨same', same⟩

end Steps

/-- Every step keeps the invariant. -/
theorem Consistent.step (consistent : Consistent rounds net)
    (matching : ∀ round ∈ rounds, round.Matching) (step : Step rounds net net') :
    Consistent rounds net' := by
  cases step with
  | enter value idle next => exact consistent.enter matching value idle next
  | send inside unsent => exact consistent.send matching inside unsent
  | receive inside sentAll awaited queued =>
      exact consistent.receive matching inside sentAll awaited queued
  | leave inside sentAll receivedAll => exact consistent.leave inside sentAll receivedAll

/-- In every run, however the members overtake each other, the invariant holds. -/
theorem Consistent.run (matching : ∀ round ∈ rounds, round.Matching)
    (run : Relation.ReflTransGen (Step rounds) (Net.start : Net ι V) net) :
    Consistent rounds net := by
  induction run with
  | refl => exact consistent_start
  | tail _ step inductionHypothesis => exact inductionHypothesis.step matching step

/-- As long as a member has a round ahead, some member can take a step: one that is in the earliest
round waits for nobody who is behind. -/
theorem Consistent.progress [Inhabited V] (consistent : Consistent rounds net)
    (matching : ∀ round ∈ rounds, round.Matching) {name : ι}
    (unfinished : (net.members name).round < rounds.length) : ∃ net', Step rounds net net' := by
  obtain ⟨slowest, least⟩ : ∃ slowest, ∀ other,
      (net.members slowest).round ≤ (net.members other).round := by
    have : Nonempty ι := ⟨name⟩
    exact ⟨Function.argmin fun other => (net.members other).round,
      fun other => Function.argmin_le (fun other => (net.members other).round) other⟩
  have behind : (net.members slowest).round < rounds.length :=
    Nat.lt_of_le_of_lt (least name) unfinished
  cases inside : (net.members slowest).current with
  | none => exact ⟨_, .enter default inside (List.getElem?_eq_getElem behind)⟩
  | some ongoing =>
      obtain ⟨exchange, planned, follows⟩ := consistent.follows slowest ongoing inside
      cases unsent : ongoing.unsent with
      | cons target rest => exact ⟨_, .send inside unsent⟩
      | nil =>
          cases awaited : ongoing.awaited with
          | nil => exact ⟨_, .leave inside unsent awaited⟩
          | cons source rest =>
              obtain ⟨done, sources, -⟩ := follows.sources
              have isSource : source ∈ exchange.sources slowest := by
                rw [sources, awaited]
                exact List.mem_append_right done (.head rest)
              have isTarget := ((matching exchange (List.mem_of_getElem? planned)).matched _ _).mpr
                isSource
              -- The source can take a step itself, or it has sent its value.
              have sentOrStep : (∃ net', Step rounds net net') ∨
                  (net.members source).Sent (net.members slowest).round slowest := by
                rcases Nat.lt_or_eq_of_le (least source) with ahead | same
                · exact .inr (.inl ahead)
                · cases insideSource : (net.members source).current with
                  | none =>
                      refine .inl ⟨_, .enter default insideSource (List.getElem?_eq_getElem ?_)⟩
                      exact same ▸ behind
                  | some other =>
                      cases unsentSource : other.unsent with
                      | cons target rest => exact .inl ⟨_, .send insideSource unsentSource⟩
                      | nil => exact .inr (.inr ⟨same, other, insideSource, by simp [unsentSource]⟩)
              rcases sentOrStep with step | sent
              · exact step
              · have outstanding :
                    ¬(net.members slowest).Received (net.members slowest).round source := by
                  simp [Member.Done, inside, awaited]
                obtain ⟨underWay, -, exactly, values⟩ := consistent.queued source slowest
                have member := (exactly _).mpr ⟨⟨exchange, planned, isTarget⟩, sent, outstanding⟩
                cases queued : net.queues source slowest with
                | nil =>
                    rw [queued, List.forall₂_nil_right_iff] at values
                    subst values
                    exact absurd member List.not_mem_nil
                | cons value queue => exact ⟨_, .receive inside unsent awaited queued⟩

end Exchange
