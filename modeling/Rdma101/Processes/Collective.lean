/-
Module: Rdma101.Processes.Collective
Purpose: Collective rounds over the queues are exchange rounds: a rank's code is its sends followed
  by its receives.  What was shown of exchange rounds then holds of the collectives: the rounds of
  different ranks never mix, no rank waits for ever, and nothing is left over.
Trusted boundary: none
Main exports: Round.exchange, Round.code_eq, picture, collective_rounds_never_mix
-/
import Rdma101.Lib.Exchange
import Rdma101.Processes.Communicator

namespace Rdma101.Processes

open Exchange (Net Member Ongoing Step Consistent)

variable {n : Nat} {V : Type}

/-! ### A round as sends followed by receives

Both kinds of round have the same shape, so that one result on exchange rounds covers
`allgather`, `sendrecv` and any sequence of them. -/

/-- Whom a rank sends to in a round, and whom it then receives from. -/
def Round.exchange : Round n → Exchange (Fin n)
  | .allgather =>
      { targets := fun rank => (List.finRange n).filter (· ≠ rank)
        sources := fun rank => (List.finRange n).filter (· ≠ rank) }
  | .sendrecv call =>
      { targets := fun rank => (call rank).toList.map Prod.fst
        sources := fun rank => (call rank).toList.map Prod.snd }

def sending {α : Type} (value : V) : List (Fin n) → Comm n V α → Comm n V α
  | [], next => next
  | target :: rest, next => .send value target (sending value rest next)

def receiving {α : Type} : List (Fin n) → (List V → α) → Comm n V α
  | [], finish => .done (finish [])
  | source :: rest, finish =>
      .recv source fun value => receiving rest fun values => finish (value :: values)

/-- The values of all ranks, from the own one and the ones of the others. -/
def merge (rank : Fin n) (value : V) : List (Fin n) → List V → List V
  | [], _ => []
  | other :: rest, values =>
      if other = rank then value :: merge rank value rest values
      else values.head?.toList ++ merge rank value rest values.tail

/-- What a round returns on a rank that passed a value and received others. -/
def Round.assemble (rank : Fin n) (value : V) (values : List V) : Round n → Outcome V
  | .allgather => .gathered (merge rank value (List.finRange n) values)
  | .sendrecv _ => values.head?.elim .skipped .received

/-- Sequencing of programs is associative. -/
theorem Comm.bind_assoc {α β γ : Type} (program : Comm n V α) (first : α → Comm n V β)
    (second : β → Comm n V γ) :
    program >>= first >>= second = program >>= fun value => first value >>= second := by
  induction program with
  | done value => rfl
  | send value dest next inductionHypothesis =>
      exact congrArg (Comm.send value dest) inductionHypothesis
  | recv source next inductionHypothesis =>
      exact congrArg (Comm.recv source) (funext inductionHypothesis)

/-- The first loop of `allgather` sends to the others in their order. -/
theorem sendOthers_bind {α : Type} (rank : Fin n) (value : V) (next : Comm n V α)
    (others : List (Fin n)) :
    (Communicator.sendOthers rank value others >>= fun _ => next) =
      sending value (others.filter (· ≠ rank)) next := by
  induction others with
  | nil => rfl
  | cons other rest inductionHypothesis =>
      by_cases self : other = rank
      · rw [List.filter_cons_of_neg (by simpa using self), ← inductionHypothesis]
        simp only [Communicator.sendOthers, self, ne_eq, not_true_eq_false, if_false]
      · rw [List.filter_cons_of_pos (by simpa using self), sending, ← inductionHypothesis]
        simp only [Communicator.sendOthers, self, ne_eq, not_false_eq_true, if_true]
        rfl

/-- The list comprehension receives from the others in their order, and puts its own value in its
place. -/
theorem gather_bind {α : Type} (rank : Fin n) (value : V) (others : List (Fin n))
    (finish : List V → α) :
    (Communicator.gather rank value others >>= fun values => pure (finish values)) =
      receiving (others.filter (· ≠ rank)) fun values =>
        finish (merge rank value others values) := by
  induction others generalizing finish with
  | nil => rfl
  | cons other rest inductionHypothesis =>
      have later : ∀ received, (Communicator.gather rank value rest >>= fun values =>
          (pure (finish (received :: values)) : Comm n V α)) =
          receiving (rest.filter (· ≠ rank)) fun values =>
            finish (received :: merge rank value rest values) := fun received =>
        inductionHypothesis fun values => finish (received :: values)
      by_cases self : other = rank
      · rw [List.filter_cons_of_neg (by simpa using self)]
        simp only [Communicator.gather, self, if_pos, Comm.bind_assoc, merge]
        exact later value
      · rw [List.filter_cons_of_pos (by simpa using self), receiving]
        simp only [Communicator.gather, self, if_false, Comm.bind_assoc, merge]
        exact congrArg (Comm.recv other) (funext later)

/-- The code of either kind of round. -/
theorem Round.code_eq (rank : Fin n) (value : V) (round : Round n) :
    round.code rank value = sending value (round.exchange.targets rank)
      (receiving (round.exchange.sources rank) fun values => round.assemble rank value values) := by
  cases round with
  | allgather =>
      simp only [Round.code, Communicator.allgather, Comm.bind_assoc]
      rw [sendOthers_bind, gather_bind]
      rfl
  | sendrecv call =>
      simp only [Round.code, Round.exchange]
      cases call rank with
      | none => rfl
      | some partners => rfl

/-- Partners that match are targets and sources that match. -/
theorem Round.exchange_matching {round : Round n} (matching : round.Matching) :
    round.exchange.Matching := by
  cases round with
  | allgather =>
      refine ⟨fun rank => (List.nodup_finRange n).filter _,
        fun rank => (List.nodup_finRange n).filter _, fun sender receiver => ?_⟩
      simp only [Round.exchange, List.mem_filter, List.mem_finRange, true_and, decide_eq_true_eq]
      exact ne_comm
  | sendrecv call =>
      refine ⟨fun rank => ?_, fun rank => ?_, fun sender receiver => ?_⟩
      · cases named : call rank <;> simp [Round.exchange, named]
      · cases named : call rank <;> simp [Round.exchange, named]
      · simpa [Round.exchange] using matching.1 sender receiver

/-- Nobody sends to itself. -/
theorem Round.not_target_self {round : Round n} (matching : round.Matching) (rank : Fin n) :
    rank ∉ round.exchange.targets rank := by
  cases round with
  | allgather => simp [Round.exchange]
  | sendrecv call =>
      simp only [Round.exchange, List.mem_map, Option.mem_toList, Prod.exists, exists_and_right,
        exists_eq_right, not_exists]
      exact matching.2 rank

theorem matching_of_rounds {rounds : List (Round n)} (matching : ∀ round ∈ rounds, round.Matching) :
    ∀ exchange ∈ rounds.map Round.exchange, exchange.Matching := by
  intro exchange member
  obtain ⟨round, inRounds, rfl⟩ := List.mem_map.mp member
  exact Round.exchange_matching (matching round inRounds)

/-! ### The ranks as members of exchange rounds

A member is where a rank is in its code; `picture` draws the world of the ranks that a net
stands for.  The simulation goes both ways: steps of ranks are steps of members, which gives the
values, and steps of members are steps of ranks, which gives progress. -/

variable (rounds : List (Round n))

/-- What the round with this number returns. -/
def assembleAt (number : Nat) (rank : Fin n) (value : V) (values : List V) : Outcome V :=
  rounds[number]?.elim .skipped (Round.assemble rank value values)

/-- The rest of the code of a rank that has got this far. -/
def residual (number : Nat) (rank : Fin n) (ongoing : Ongoing (Fin n) V) :
    Comm n V (Outcome V) :=
  sending ongoing.value ongoing.unsent (receiving ongoing.awaited fun values =>
    assembleAt rounds number rank ongoing.value (ongoing.received ++ values))

/-- The rank that a member of the exchange rounds stands for. -/
def process (rank : Fin n) (member : Member (Fin n) V) : Process n V where
  log := member.finished.mapIdx fun number entry =>
    (entry.1, assembleAt rounds number rank entry.1 entry.2)
  running := member.current.map fun ongoing =>
    (ongoing.value, residual rounds member.round rank ongoing)

def picture (net : Net (Fin n) V) : World n V where
  processes rank := process rounds rank (net.members rank)
  messages := net.queues

variable {rounds} {net : Net (Fin n) V}

theorem passed_process (rank : Fin n) (member : Member (Fin n) V) :
    (process rounds rank member).passed = member.passed := by
  rw [Process.passed, Member.passed, process]
  congr 1
  · refine List.ext_getElem? fun number => ?_
    rw [List.getElem?_map, List.getElem?_mapIdx, Option.map_map, List.getElem?_map]
    rfl
  · cases member.current <;> rfl

@[simp] theorem length_log_process (rank : Fin n) (member : Member (Fin n) V) :
    (process rounds rank member).log.length = member.round := List.length_mapIdx

/-- A change of a member is a change of its rank. -/
theorem picture_setMember (rank : Fin n) (member : Member (Fin n) V) :
    picture rounds (net.setMember rank member) =
      (picture rounds net).setProcess rank (process rounds rank member) := by
  simp only [picture, World.setProcess, Net.setMember, World.mk.injEq, and_true]
  funext other
  by_cases self : other = rank
  · subst self
    simp
  · simp [self]

theorem picture_setQueue (sender receiver : Fin n) (queue : List V) :
    picture rounds (net.setQueue sender receiver queue) =
      (picture rounds net).setMessages sender receiver queue := rfl

theorem picture_setCurrent (rank : Fin n) (ongoing : Ongoing (Fin n) V) :
    picture rounds (net.setCurrent rank ongoing) =
      (picture rounds net).setProcess rank { (picture rounds net).processes rank with
        running := some (ongoing.value,
          residual rounds (net.members rank).round rank ongoing) } :=
  picture_setMember rank _

section Steps

variable {rank : Fin n} {ongoing : Ongoing (Fin n) V}

theorem running_picture (inside : (net.members rank).current = some ongoing) :
    ((picture rounds net).processes rank).running = some (ongoing.value,
      residual rounds (net.members rank).round rank ongoing) := by
  simp [picture, process, inside]

/-- A rank that enters a round stands before its first send. -/
theorem step_enter (value : V) {round : Round n} (idle : (net.members rank).current = none)
    (next : rounds[(net.members rank).round]? = some round) :
    step rounds (picture rounds net) (.enter rank value) = some (picture rounds
      (net.setCurrent rank ⟨value, round.exchange.targets rank, [],
        round.exchange.sources rank⟩)) := by
  have entered : residual rounds (net.members rank).round rank
      ⟨value, round.exchange.targets rank, [], round.exchange.sources rank⟩ =
        round.code rank value := by
    simp [residual, assembleAt, next, Round.code_eq]
  have notRunning : ((picture rounds net).processes rank).running = none := by
    simp [picture, process, idle]
  have sameRound : rounds[((picture rounds net).processes rank).log.length]? = some round := by
    rw [picture, length_log_process]
    exact next
  rw [picture_setCurrent, entered]
  simp only [step, notRunning, sameRound]

/-- A rank with a target left sends to it. -/
theorem step_send {target : Fin n} {rest : List (Fin n)}
    (inside : (net.members rank).current = some ongoing)
    (unsent : ongoing.unsent = target :: rest) (other : target ≠ rank) :
    step rounds (picture rounds net) (.advance rank) = some (picture rounds
      ((net.setCurrent rank { ongoing with unsent := rest }).setQueue rank target
        (net.queues rank target ++ [ongoing.value]))) := by
  have code : residual rounds (net.members rank).round rank ongoing =
      .send ongoing.value target (residual rounds (net.members rank).round rank
        { ongoing with unsent := rest }) := by
    simp only [residual, unsent, sending]
  simp only [step, running_picture inside, code, World.advance, if_neg other]
  rw [picture_setQueue, picture_setCurrent]
  rfl

/-- A rank that has sent everything takes the oldest value of its next source. -/
theorem step_receive {source : Fin n} {rest : List (Fin n)} {value : V} {queue : List V}
    (inside : (net.members rank).current = some ongoing) (sentAll : ongoing.unsent = [])
    (awaited : ongoing.awaited = source :: rest) (queued : net.queues source rank = value :: queue)
    (other : source ≠ rank) :
    step rounds (picture rounds net) (.advance rank) = some (picture rounds ((net.setCurrent rank
      { ongoing with received := ongoing.received ++ [value], awaited := rest }).setQueue source
        rank queue)) := by
  have code : residual rounds (net.members rank).round rank ongoing =
      .recv source fun value => residual rounds (net.members rank).round rank
        { ongoing with received := ongoing.received ++ [value], awaited := rest } := by
    simp only [residual, sentAll, sending, awaited, receiving, List.append_assoc,
      List.singleton_append]
  have queued' : (picture rounds net).messages source rank = value :: queue := queued
  simp only [step, running_picture inside, code, World.advance, if_neg other, queued']
  rw [picture_setQueue, picture_setCurrent]

/-- A rank that has received everything returns from the round. -/
theorem step_leave (inside : (net.members rank).current = some ongoing)
    (sentAll : ongoing.unsent = []) (receivedAll : ongoing.awaited = []) :
    step rounds (picture rounds net) (.advance rank) = some (picture rounds (net.setMember rank
      ⟨(net.members rank).finished ++ [(ongoing.value, ongoing.received)], none⟩)) := by
  have code : residual rounds (net.members rank).round rank ongoing =
      .done (assembleAt rounds (net.members rank).round rank ongoing.value ongoing.received) := by
    simp only [residual, sentAll, sending, receivedAll, receiving, List.append_nil]
  simp only [step, running_picture inside, code, World.advance]
  rw [picture_setMember]
  simp [process, picture, Member.round]

/-- Every step of the ranks is a step of the members they stand for. -/
theorem simulated {label : Label n V} {after : World n V}
    (taken : step rounds (picture rounds net) label = some after) :
    ∃ net', Step (rounds.map Round.exchange) net net' ∧ after = picture rounds net' := by
  cases label with
  | enter rank value =>
      cases inside : (net.members rank).current with
      | some ongoing => simp [step, running_picture inside] at taken
      | none =>
          have notRunning : ((picture rounds net).processes rank).running = none := by
            simp [picture, process, inside]
          cases next : rounds[(net.members rank).round]? with
          | none =>
              have noRound : rounds[((picture rounds net).processes rank).log.length]? = none := by
                rw [picture, length_log_process]
                exact next
              simp [step, notRunning, noRound] at taken
          | some round =>
              rw [step_enter value inside next] at taken
              have planned : (rounds.map Round.exchange)[(net.members rank).round]? =
                  some round.exchange := by simp [next]
              exact ⟨_, .enter value inside planned, (Option.some.inj taken).symm⟩
  | advance rank =>
      cases inside : (net.members rank).current with
      | none => simp [step, picture, process, inside] at taken
      | some ongoing =>
          cases unsent : ongoing.unsent with
          | cons target rest =>
              by_cases other : target = rank
              · simp [step, running_picture inside, residual, unsent, sending, World.advance,
                  other] at taken
              · rw [step_send inside unsent other] at taken
                exact ⟨_, .send inside unsent, (Option.some.inj taken).symm⟩
          | nil =>
              cases awaited : ongoing.awaited with
              | nil =>
                  rw [step_leave inside unsent awaited] at taken
                  exact ⟨_, .leave inside unsent awaited, (Option.some.inj taken).symm⟩
              | cons source rest =>
                  by_cases other : source = rank
                  · simp [step, running_picture inside, residual, unsent, sending, awaited,
                      receiving, World.advance, other] at taken
                  · cases queued : net.queues source rank with
                    | nil =>
                        have empty : (picture rounds net).messages source rank = [] := queued
                        simp [step, running_picture inside, residual, unsent, sending, awaited,
                          receiving, World.advance, other, empty] at taken
                    | cons value queue =>
                        rw [step_receive inside unsent awaited queued other] at taken
                        exact ⟨_, .receive inside unsent awaited queued,
                          (Option.some.inj taken).symm⟩

/-- Every step of the members is a step of the ranks, as nobody is its own partner. -/
theorem enabled (matching : ∀ round ∈ rounds, round.Matching)
    (consistent : Consistent (rounds.map Round.exchange) net) {net' : Net (Fin n) V}
    (taken : Step (rounds.map Round.exchange) net net') :
    ∃ label, step rounds (picture rounds net) label = some (picture rounds net') := by
  have notSelf : ∀ {rank : Fin n} {ongoing : Ongoing (Fin n) V},
      (net.members rank).current = some ongoing →
      rank ∉ ongoing.unsent ∧ rank ∉ ongoing.awaited := by
    intro rank ongoing inside
    obtain ⟨exchange, planned, follows⟩ := consistent.follows rank ongoing inside
    rw [List.getElem?_map, Option.map_eq_some_iff] at planned
    obtain ⟨round, planned, rfl⟩ := planned
    have matched := matching round (List.mem_of_getElem? planned)
    have notTarget := Round.not_target_self matched rank
    have notSource := (not_congr ((Round.exchange_matching matched).matched rank rank)).mp notTarget
    obtain ⟨done, targets⟩ := follows.targets
    obtain ⟨done', sources, -⟩ := follows.sources
    rw [targets, List.mem_append, not_or] at notTarget
    rw [sources, List.mem_append, not_or] at notSource
    exact ⟨notTarget.2, notSource.2⟩
  cases taken with
  | @enter rank exchange value idle next =>
      rw [List.getElem?_map, Option.map_eq_some_iff] at next
      obtain ⟨round, next, rfl⟩ := next
      exact ⟨_, step_enter value idle next⟩
  | @send rank target ongoing rest inside unsent =>
      have other : target ≠ rank := by
        rintro rfl
        exact (notSelf inside).1 (unsent ▸ .head rest)
      exact ⟨_, step_send inside unsent other⟩
  | @receive rank source ongoing rest value queue inside sentAll awaited queued =>
      have other : source ≠ rank := by
        rintro rfl
        exact (notSelf inside).2 (awaited ▸ .head rest)
      exact ⟨_, step_receive inside sentAll awaited queued other⟩
  | leave inside sentAll receivedAll => exact ⟨_, step_leave inside sentAll receivedAll⟩

end Steps

/-- Every reached world is the picture of a net that exchange steps reach. -/
theorem exists_net {world : World n V} (reached : (system n V rounds).Reachable
    (fun _ _ => True) world) :
    ∃ net, Relation.ReflTransGen (Step (rounds.map Round.exchange)) Net.start net ∧
      world = picture rounds net := by
  induction reached with
  | initial start =>
      obtain rfl := start
      exact ⟨Net.start, .refl, rfl⟩
  | step _ _ taken inductionHypothesis =>
      obtain ⟨net, run, rfl⟩ := inductionHypothesis
      obtain ⟨net', taken', same⟩ := simulated taken
      exact ⟨net', run.tail taken', same⟩

/-! ### What the rounds return

What a member has received in a round are the values of that round, in the order of its sources;
`assemble` puts them in the places of their ranks. -/

/-- The values of all ranks, each in the place of its rank. -/
theorem merge_values {holds : Fin n → V → Prop} {rank : Fin n} {value : V}
    (own : holds rank value) (others : List (Fin n)) {values : List V}
    (received : List.Forall₂ holds (others.filter (· ≠ rank)) values) :
    List.Forall₂ holds others (merge rank value others values) := by
  induction others generalizing values with
  | nil => exact .nil
  | cons other rest inductionHypothesis =>
      by_cases self : other = rank
      · rw [List.filter_cons_of_neg (by simpa using self)] at received
        rw [merge, if_pos self]
        exact .cons (self ▸ own) (inductionHypothesis received)
      · rw [List.filter_cons_of_pos (by simpa using self)] at received
        rw [merge, if_neg self]
        cases received with
        | cons head tail => exact .cons head (inductionHypothesis tail)

/-- The value that a rank passed to a round that it has left. -/
theorem passed_finished {rank : Fin n} {number : Nat} {entry : V × List V}
    (left : (net.members rank).finished[number]? = some entry) :
    net.Passed number rank entry.1 := by
  have bound := (List.getElem?_eq_some_iff.mp left).1
  rw [Net.Passed, Member.passed, List.getElem?_append_left (by simpa using bound),
    List.getElem?_map, left]
  rfl

/-- Collective rounds never mix.  In every run, the round with a given number returns the values
that the ranks passed to their own round with that number; as long as a rank has a round ahead,
some rank can take a step; and when all ranks have finished, all queues are empty. -/
theorem collective_rounds_never_mix [Inhabited V] (rounds : List (Round n))
    (matching : ∀ round ∈ rounds, round.Matching) {world : World n V}
    (reached : (system n V rounds).Reachable (fun _ _ => True) world) :
    (∀ (rank : Fin n) (number : Nat) (value : V) (outcome : Outcome V),
      (world.processes rank).log[number]? = some (value, outcome) →
      (rounds[number]? = some .allgather → ∃ values, outcome = .gathered values ∧
        values.length = n ∧ ∀ other : Fin n, ∃ passed,
          (world.processes other).passed[number]? = some passed ∧
          values[other.val]? = some passed) ∧
      ∀ call dest source, rounds[number]? = some (.sendrecv call) →
        call rank = some (dest, source) → ∃ passed,
          (world.processes source).passed[number]? = some passed ∧ outcome = .received passed) ∧
    ((∃ rank, (world.processes rank).log.length < rounds.length) →
      ∃ label after, (system n V rounds).step world label = some after) ∧
    ((∀ rank, (world.processes rank).log.length = rounds.length) →
      ∀ sender receiver, world.messages sender receiver = []) := by
  obtain ⟨net, run, rfl⟩ := exists_net reached
  have consistent := Consistent.run (matching_of_rounds matching) run
  refine ⟨?_, ?_, ?_⟩
  · intro rank number value outcome logged
    obtain ⟨entry, left, rfl, rfl⟩ : ∃ entry, (net.members rank).finished[number]? = some entry ∧
        entry.1 = value ∧ assembleAt rounds number rank entry.1 entry.2 = outcome := by
      simpa [picture, process, Prod.ext_iff] using logged
    obtain ⟨exchange, planned, values⟩ := consistent.finished rank number entry left
    rw [List.getElem?_map, Option.map_eq_some_iff] at planned
    obtain ⟨round, planned, rfl⟩ := planned
    have samePassed : ∀ other, ((picture rounds net).processes other).passed =
        (net.members other).passed := fun other => passed_process other _
    simp only [samePassed, assembleAt, planned, Option.elim_some, Option.some.injEq]
    refine ⟨?_, ?_⟩
    · rintro rfl
      have all := merge_values (passed_finished left) (List.finRange n) values
      refine ⟨_, rfl, by rw [← all.length_eq, List.length_finRange], fun other => ?_⟩
      obtain ⟨bound, holds⟩ := List.forall₂_iff_get.mp all
      have inRange : other.val < (List.finRange n).length := by simp
      have passed := holds other.val inRange (bound ▸ inRange)
      simp only [List.get_eq_getElem, List.getElem_finRange, Fin.cast_mk, Fin.eta] at passed
      exact ⟨_, passed, List.getElem?_eq_getElem _⟩
    · rintro call dest source rfl called
      obtain ⟨entryValue, received⟩ := entry
      simp only [Round.exchange, called, Option.toList_some, List.map_cons, List.map_nil] at values
      cases values with
      | @cons _ passed _ rest head tail => exact ⟨passed, head, rfl⟩
  · rintro ⟨rank, unfinished⟩
    rw [picture, length_log_process] at unfinished
    have ahead : (net.members rank).round < (rounds.map Round.exchange).length := by
      rwa [List.length_map]
    obtain ⟨net', taken⟩ := consistent.progress (matching_of_rounds matching) ahead
    obtain ⟨label, taken'⟩ := enabled matching consistent taken
    exact ⟨label, _, taken'⟩
  · intro finished
    apply consistent.empty
    intro rank
    rw [List.length_map, ← finished rank, picture, length_log_process]

/-- Two ranks gather and then exchange; the first one runs ahead into the second round. -/
def sampleRounds : List (Round 2) := [.allgather, .sendrecv fun rank => some (rank + 1, rank + 1)]

def sampleLabels : List (Label 2 Nat) :=
  [.enter 0 10, .advance 0, .enter 1 11, .advance 1, .advance 0, .advance 0, .enter 0 20,
    .advance 0, .advance 1, .advance 1]

theorem sampleRounds_matching : ∀ round ∈ sampleRounds, round.Matching := by
  intro round member
  rcases List.mem_cons.mp member with rfl | member
  · trivial
  · obtain rfl := List.mem_singleton.mp member
    refine ⟨fun sender receiver => ?_, fun rank source => ?_⟩
    · simp only [Option.some.injEq, Prod.mk.injEq, exists_and_left, exists_eq', and_true]
      revert sender receiver
      decide
    · revert rank source
      decide

/-- The first rank has sent its second value while the second one was still in the first round. -/
theorem collective_rounds_never_mix_sample : ∃ world : World 2 Nat,
    (world.messages 0 1 = [20] ∧ (world.processes 1).log = [(11, .gathered [10, 11])]) ∧
      ∃ label after, (system 2 Nat sampleRounds).step world label = some after := by
  have computed : ∃ world, (system 2 Nat sampleRounds).Reachable (fun _ _ => True) world ∧
      world.messages 0 1 = [20] ∧ (world.processes 1).log = [(11, .gathered [10, 11])] :=
    LabelledSystem.exists_reachable (.initial rfl) sampleLabels (by decide)
  obtain ⟨world, reached, queued, logged⟩ := computed
  have never := collective_rounds_never_mix sampleRounds sampleRounds_matching reached
  exact ⟨world, ⟨queued, logged⟩, never.2.1 ⟨1, by simp [logged, sampleRounds]⟩⟩

end Rdma101.Processes
