/-
Module: Rdma101.VerbsProbe.Evidence
Purpose: The counters of the probe are exact about the true history, for every interleaving of posts
  and polls on any number of queue pairs, with one completion covering all requests before it.
Trusted boundary: none
Main exports: Mirrors, Evident, evidence_exact
-/
import Rdma101.VerbsProbe.History
import Mathlib.Data.List.Forall2

namespace Rdma101.VerbsProbe

/-! ### Signaled requests and the WRITEs up to them

A completion of the `k`-th signaled request covers everything up to it.  So the history is split
at signaled requests, and the probe needs to know no more of a request than how many WRITEs lie
up to it. -/

section Marks

variable {signaled : SendWr → Bool}

/-- WRITEs are counted request by request. -/
theorem writeCount_append (first second : List SendWr) :
    writeCount (first ++ second) = writeCount first + writeCount second := List.countP_append

theorem writeCount_singleton (wr : SendWr) :
    writeCount [wr] = if wr.isWrite then 1 else 0 := List.countP_singleton

/-- A request that is posted last adds a mark if it is signaled, and none otherwise. -/
theorem marks_append (count : Nat) (wrs : List SendWr) (wr : SendWr) :
    marks signaled count (wrs ++ [wr]) = marks signaled count wrs ++
      if signaled wr then [⟨wr.wrId, count + writeCount (wrs ++ [wr])⟩] else [] := by
  induction wrs generalizing count with
  | nil =>
      rw [List.nil_append, writeCount_singleton]
      cases write : wr.isWrite <;> cases signal : signaled wr <;> simp [marks, write, signal]
  | cons first rest inductionHypothesis =>
      have sum : writeCount (first :: rest ++ [wr]) =
          (if first.isWrite then 1 else 0) + writeCount (rest ++ [wr]) := by
        rw [List.cons_append, ← List.singleton_append, writeCount_append, writeCount_singleton]
      simp only [List.cons_append, marks] at sum ⊢
      rw [inductionHypothesis, sum]
      cases first.isWrite <;> cases signaled first <;> simp [Nat.add_assoc]

/-- The marks are the signaled requests, in posting order. -/
theorem map_marks (count : Nat) (wrs : List SendWr) :
    (marks signaled count wrs).map SignaledWr.wrId = (wrs.filter signaled).map SendWr.wrId := by
  induction wrs generalizing count with
  | nil => rfl
  | cons first rest inductionHypothesis =>
      simp only [marks, List.filter_cons]
      cases signaled first <;> simp [inductionHypothesis]

theorem length_marks (count : Nat) (wrs : List SendWr) :
    (marks signaled count wrs).length = (wrs.filter signaled).length := by
  have mapped : ((marks signaled count wrs).map SignaledWr.wrId).length =
      ((wrs.filter signaled).map SendWr.wrId).length := by rw [map_marks]
  simpa only [List.length_map] using mapped

@[simp] theorem splitAtSignal_zero (wrs : List SendWr) :
    splitAtSignal signaled 0 wrs = ([], wrs) := by
  cases wrs <;> rfl

/-- A mark counts the WRITEs up to its request. -/
theorem writeSequence_marks {count signals : Nat} {wrs : List SendWr} {mark : SignaledWr}
    (here : (marks signaled count wrs)[signals]? = some mark) :
    mark.writeSequence = count + writeCount (splitAtSignal signaled (signals + 1) wrs).1 := by
  induction wrs generalizing count signals with
  | nil => simp [marks] at here
  | cons first rest inductionHypothesis =>
      have sum : ∀ later, writeCount (first :: later) =
          (if first.isWrite then 1 else 0) + writeCount later := fun later => by
        rw [← List.singleton_append, writeCount_append, writeCount_singleton]
      have next : ∀ later, (if first.isWrite then count + 1 else count) + writeCount later =
          count + writeCount (first :: later) := fun later => by
        rw [sum]
        split <;> omega
      simp only [marks] at here
      simp only [splitAtSignal]
      cases signal : signaled first with
      | false =>
          rw [signal, if_neg Bool.false_ne_true] at here
          rw [if_neg Bool.false_ne_true, inductionHypothesis here, next]
      | true =>
          rw [signal, if_pos rfl] at here
          rw [if_pos rfl, ← next]
          cases signals with
          | zero =>
              rw [List.getElem?_cons_zero, Option.some.injEq] at here
              subst here
              rw [splitAtSignal_zero]
              rfl
          | succ signals =>
              rw [List.getElem?_cons_succ] at here
              exact inductionHypothesis here

/-- A new request is not covered yet. -/
theorem splitAtSignal_append {signals : Nat} {wrs : List SendWr} (wr : SendWr)
    (enough : signals ≤ (wrs.filter signaled).length) :
    splitAtSignal signaled signals (wrs ++ [wr]) =
      ((splitAtSignal signaled signals wrs).1, (splitAtSignal signaled signals wrs).2 ++ [wr]) := by
  induction wrs generalizing signals with
  | nil =>
      obtain rfl : signals = 0 := by simpa using enough
      rfl
  | cons first rest inductionHypothesis =>
      cases signals with
      | zero => rfl
      | succ signals =>
          simp only [List.cons_append, splitAtSignal]
          rw [List.filter_cons] at enough
          have enough' : (if signaled first then signals else signals + 1) ≤
              (rest.filter signaled).length := by
            split at enough
            · rename_i signal
              rw [if_pos signal]
              exact Nat.le_of_succ_le_succ enough
            · rename_i signal
              rw [if_neg signal]
              exact enough
          rw [inductionHypothesis enough']

/-- One more signaled request covers at least as much. -/
theorem splitAtSignal_succ (signals : Nat) (wrs : List SendWr) :
    (splitAtSignal signaled signals wrs).1 <+: (splitAtSignal signaled (signals + 1) wrs).1 := by
  induction wrs generalizing signals with
  | nil => cases signals <;> exact List.prefix_rfl
  | cons first rest inductionHypothesis =>
      cases signals with
      | zero => exact List.nil_prefix
      | succ signals =>
          refine List.cons_prefix_cons.mpr ⟨rfl, ?_⟩
          cases signaled first with
          | true => exact inductionHypothesis signals
          | false => exact inductionHypothesis (signals + 1)

/-- Both parts together are the requests. -/
theorem splitAtSignal_concat (signals : Nat) (wrs : List SendWr) :
    (splitAtSignal signaled signals wrs).1 ++ (splitAtSignal signaled signals wrs).2 = wrs := by
  induction wrs generalizing signals with
  | nil => cases signals <;> rfl
  | cons first rest inductionHypothesis =>
      cases signals with
      | zero => rfl
      | succ signals => simp [splitAtSignal, inductionHypothesis]

end Marks

/-! ### A queue pair and its history

The queue of a record holds a mark for each signaled request that is not completed.  Posting
appends one, and a completion takes the first one; both do to the history what they do to the
record. -/

/-- The record of a queue pair is exact about its history. -/
structure Mirrors (state : QpState) (history : History) : Prop where
  qp : state.qp = history.qp
  sendCapacity : state.sendCapacity = history.sendCapacity
  signalAll : state.signalAll = history.signalAll
  posted : state.posted = writeCount history.accepted
  completed : state.completed = writeCount history.covered
  pending : state.pending =
    (marks history.signals 0 history.accepted).drop history.delivered
  delivered : history.delivered ≤ (history.accepted.filter history.signals).length

/-- What one accepted request does to the record of its queue pair. -/
def QpState.post (wr : SendWr) (state : QpState) : QpState :=
  let written := if wr.isWrite then { state with posted := state.posted + 1 } else state
  if state.signalAll || wr.signaled then written.enqueue wr else written

section Mirrors

variable {state : QpState} {history : History}

/-- Accepting a request covers nothing. -/
theorem covered_accept (delivered : history.delivered ≤
    (history.accepted.filter history.signals).length) (wr : SendWr) :
    (history.accept wr).covered = history.covered :=
  (congrArg Prod.fst (splitAtSignal_append wr delivered)).trans rfl

/-- Posting keeps the record exact: what waits at the end is the mark of the new request. -/
theorem Mirrors.accept (mirrors : Mirrors state history) (wr : SendWr) :
    Mirrors (state.post wr) (history.accept wr) := by
  have signals : (state.signalAll || wr.signaled) = history.signals wr := by
    rw [mirrors.signalAll]
    rfl
  have posted : (if wr.isWrite then { state with posted := state.posted + 1 } else state).posted =
      writeCount (history.accepted ++ [wr]) := by
    rw [writeCount_append, writeCount_singleton, ← mirrors.posted]
    split <;> rfl
  have enough : history.delivered ≤ (marks history.signals 0 history.accepted).length := by
    rw [length_marks]
    exact mirrors.delivered
  have more : (history.accepted.filter history.signals).length ≤
      ((history.accept wr).accepted.filter history.signals).length := by
    rw [History.accept, List.filter_append, List.length_append]
    exact Nat.le_add_right _ _
  have pending : (marks history.signals 0 (history.accepted ++ [wr])).drop history.delivered =
      state.pending ++ if history.signals wr then
        [⟨wr.wrId, writeCount (history.accepted ++ [wr])⟩] else [] := by
    rw [marks_append, List.drop_append_of_le_length enough, Nat.zero_add, mirrors.pending]
  have written : (if wr.isWrite then { state with posted := state.posted + 1 } else state) =
      { state with posted := writeCount (history.accepted ++ [wr]) } := by
    rw [← posted]
    split <;> rfl
  rw [QpState.post, signals, written]
  refine ⟨?_, ?_, ?_, ?_, ?_, ?_, Nat.le_trans mirrors.delivered more⟩
  · split <;> exact mirrors.qp
  · split <;> exact mirrors.sendCapacity
  · split <;> exact mirrors.signalAll
  · split <;> rfl
  · rw [covered_accept mirrors.delivered]
    split <;> exact mirrors.completed
  · refine Eq.trans ?_ pending.symm
    split
    · rfl
    · exact (List.append_nil _).symm

/-- The entry at the head of the queue is the next signaled request. -/
theorem Mirrors.head (mirrors : Mirrors state history) :
    state.pending.head? = (marks history.signals 0 history.accepted)[history.delivered]? := by
  rw [mirrors.pending, List.head?_drop]

/-- The id at the head is the one of the next signaled request. -/
theorem Mirrors.head_wrId (mirrors : Mirrors state history) :
    state.pending.head?.map SignaledWr.wrId =
      (history.accepted.filter history.signals)[history.delivered]?.map SendWr.wrId := by
  rw [mirrors.head, ← List.getElem?_map, map_marks, List.getElem?_map]

/-- The completion of the request at the head covers the WRITEs that the entry counts. -/
theorem Mirrors.covered_deliver (mirrors : Mirrors state history) {signaled : SignaledWr}
    {rest : List SignaledWr} (waiting : state.pending = signaled :: rest) :
    signaled.writeSequence = writeCount history.deliver.covered := by
  have here : (marks history.signals 0 history.accepted)[history.delivered]? = some signaled := by
    rw [← mirrors.head, waiting]
    rfl
  exact (writeSequence_marks here).trans (Nat.zero_add _)

/-- So does a delivered completion, which takes the mark at the head. -/
theorem Mirrors.deliver (mirrors : Mirrors state history) {signaled : SignaledWr}
    {rest : List SignaledWr} (waiting : state.pending = signaled :: rest) :
    Mirrors (state.retire signaled) history.deliver := by
  have here : (marks history.signals 0 history.accepted)[history.delivered]? = some signaled := by
    rw [← mirrors.head, waiting]
    rfl
  have tail : state.pending.tail =
      (marks history.signals 0 history.accepted).drop (history.delivered + 1) := by
    rw [mirrors.pending, List.tail_drop]
  have below : history.delivered < (history.accepted.filter history.signals).length := by
    rw [← length_marks 0]
    exact (List.getElem?_eq_some_iff.mp here).1
  exact ⟨mirrors.qp, mirrors.sendCapacity, mirrors.signalAll, mirrors.posted,
    mirrors.covered_deliver waiting, tail, below⟩

/-- A delivered completion uncovers nothing. -/
theorem History.writeCount_covered_deliver (history : History) :
    writeCount history.covered ≤ writeCount history.deliver.covered :=
  (splitAtSignal_succ history.delivered history.accepted).sublist.countP_le

/-- What is covered was accepted. -/
theorem History.writeCount_covered (history : History) :
    writeCount history.covered + writeCount history.uncovered = writeCount history.accepted := by
  rw [← writeCount_append]
  exact congrArg writeCount (splitAtSignal_concat history.delivered history.accepted)

end Mirrors

/-! ### Two lists that are searched together

Records and histories are two lists in the same order.  A search by the same key finds the same
place in both, so a change of one is matched by the change of the other. -/

/-- `item` is the first one that is found, between `before` and `after`. -/
structure FoundAt {α : Type} (found : α → Bool) (items before : List α) (item : α)
    (after : List α) : Prop where
  items_eq : items = before ++ item :: after
  here : found item = true
  notBefore : ∀ other ∈ before, found other = false

namespace FoundAt

variable {α : Type} {found : α → Bool} {items before after : List α} {item : α}

/-- The search finds the item. -/
theorem find (at_ : FoundAt found items before item after) : items.find? found = some item := by
  refine List.find?_eq_some_iff_append.mpr ⟨at_.here, before, after, at_.items_eq, ?_⟩
  intro other member
  simp [at_.notBefore other member]

/-- A change of the first match happens there. -/
theorem modify (at_ : FoundAt found items before item after) (change : α → α) :
    modifyFirst found change items = before ++ change item :: after := by
  rw [at_.items_eq]
  exact modifyFirst_append change after at_.notBefore at_.here

/-- Removing the first match leaves the others. -/
theorem erase (at_ : FoundAt found items before item after) :
    items.eraseP found = before ++ after := by
  rw [at_.items_eq, List.eraseP_append_right _ ?_, List.eraseP_cons_of_pos at_.here]
  intro other member
  simp [at_.notBefore other member]

/-- The item is replaced by one that is found as well. -/
theorem replace (at_ : FoundAt found items before item after) {item' : α}
    (here' : found item' = true) : FoundAt found (before ++ item' :: after) before item' after :=
  ⟨rfl, here', at_.notBefore⟩

end FoundAt

/-- Of two lists that are related item by item, both searches fail or both find, at one place. -/
theorem found_together {α β : Type} {related : α → β → Prop} {found : α → Bool}
    {found' : β → Bool} {items : List α} {others : List β}
    (all : List.Forall₂ related items others)
    (alike : ∀ item other, related item other → found item = found' other) :
    (items.find? found = none ∧ others.find? found' = none) ∨
      ∃ before item after before' other after', FoundAt found items before item after ∧
        FoundAt found' others before' other after' ∧ related item other ∧
        List.Forall₂ related before before' ∧ List.Forall₂ related after after' := by
  induction all with
  | nil => exact .inl ⟨rfl, rfl⟩
  | @cons item other items others pair rest inductionHypothesis =>
      have same := alike item other pair
      cases here : found item with
      | true =>
          refine .inr ⟨[], item, items, [], other, others, ⟨rfl, here, ?_⟩,
            ⟨rfl, same.symm.trans here, ?_⟩, pair, .nil, rest⟩ <;>
            exact fun _ member => absurd member List.not_mem_nil
      | false =>
          have here' : found' other = false := same.symm.trans here
          rcases inductionHypothesis with ⟨missing, missing'⟩ |
            ⟨before, first, after, before', first', after', at_, at', pair', earlier, later⟩
          · exact .inl ⟨by rw [List.find?_cons_of_neg (by simp [here]), missing],
              by rw [List.find?_cons_of_neg (by simp [here']), missing']⟩
          · refine .inr ⟨item :: before, first, after, other :: before', first', after',
              ⟨by rw [at_.items_eq, List.cons_append], at_.here, ?_⟩,
              ⟨by rw [at'.items_eq, List.cons_append], at'.here, ?_⟩, pair', .cons pair earlier,
              later⟩
            · intro candidate member
              rcases List.mem_cons.mp member with rfl | member
              · exact here
              · exact at_.notBefore candidate member
            · intro candidate member
              rcases List.mem_cons.mp member with rfl | member
              · exact here'
              · exact at'.notBefore candidate member

/-! ### The invariant

For every live queue pair the record is exact about its history, and the global counters are
totals over the live and the destroyed ones. -/

/-- A number taken from each history, summed up over the live and the destroyed queue pairs. -/
def total (measure : History → Nat) (live gone : List History) : Nat :=
  (live.map measure).sum + (gone.map measure).sum

/-- What the counters of the probe say is what has really happened. -/
structure Evident (probe : Probe) (live gone : List History) (overruns : Nat) : Prop where
  tracking : probe.trackWrites = true
  mirrors : List.Forall₂ Mirrors probe.queuePairs live
  posted : probe.writes.posted = total (fun history => writeCount history.accepted) live gone
  completed : probe.writes.completed = total (fun history => writeCount history.covered) live gone
  completionErrors : probe.writes.completionErrors = 0
  capacityErrors : probe.writes.capacityErrors = overruns

/-- A total changes by what the replaced history changes. -/
theorem total_replace (measure : History → Nat) (before after gone : List History)
    (history history' : History) :
    total measure (before ++ history' :: after) gone + measure history =
      total measure (before ++ history :: after) gone + measure history' := by
  simp only [total, List.map_append, List.map_cons, List.sum_append, List.sum_cons]
  omega

section Steps

variable {probe : Probe} {live gone : List History} {overruns : Nat}

/-- A change of the other counters. -/
theorem Evident.of_same {probe' : Probe} (evident : Evident probe live gone overruns)
    (queuePairs : probe'.queuePairs = probe.queuePairs)
    (trackWrites : probe'.trackWrites = probe.trackWrites)
    (posted : probe'.writes.posted = probe.writes.posted)
    (completed : probe'.writes.completed = probe.writes.completed)
    (completionErrors : probe'.writes.completionErrors = probe.writes.completionErrors)
    (capacityErrors : probe'.writes.capacityErrors = probe.writes.capacityErrors) :
    Evident probe' live gone overruns :=
  ⟨trackWrites.trans evident.tracking, queuePairs ▸ evident.mirrors,
    posted.trans evident.posted, completed.trans evident.completed,
    completionErrors.trans evident.completionErrors, capacityErrors.trans evident.capacityErrors⟩

/-- What the probe does with one request of an RC queue pair that it knows. -/
theorem recordPostedWr_of_found {qp : Qp} (wr : SendWr) (rc : qp.qpType = .rc)
    {before after : List QpState} {state : QpState}
    (at_ : FoundAt (QpState.isQp qp.pointer) probe.queuePairs before state after) :
    (recordPostedWr qp wr probe).queuePairs = before ++ state.post wr :: after ∧
    (recordPostedWr qp wr probe).writes.posted =
      probe.writes.posted + (if wr.isWrite then 1 else 0) ∧
    (recordPostedWr qp wr probe).writes.completed = probe.writes.completed ∧
    (recordPostedWr qp wr probe).writes.completionErrors = probe.writes.completionErrors ∧
    (recordPostedWr qp wr probe).writes.capacityErrors =
      if wr.isWrite = true ∧ state.sendCapacity < subtract (state.posted + 1) state.completed then
        probe.writes.capacityErrors + 1
      else probe.writes.capacityErrors := by
  have here' : QpState.isQp qp.pointer { state with posted := state.posted + 1 } = true := at_.here
  have once := (at_.replace at_.here).modify
  have twice := (at_.replace here').modify (QpState.enqueue wr)
  have signals : (!state.signalAll && !wr.signaled) = !(state.signalAll || wr.signaled) := by
    rw [Bool.not_or]
  have isWrite : (wr.opcode = .rdmaWrite) = (wr.isWrite = true) := by
    simp [SendWr.isWrite]
  rw [recordPostedWr, if_neg (not_not_intro rc), at_.find]
  simp only [signals, isWrite, QpState.post]
  cases wr.isWrite <;> cases (state.signalAll || wr.signaled) <;>
    simp [once, twice, countWrite, at_.items_eq, Probe.logSubtraction]

/-- One accepted request. -/
theorem Evident.accept (evident : Evident probe live gone overruns) {qp : Qp} (wr : SendWr)
    (rc : qp.qpType = .rc) :
    Evident (recordPostedWr qp wr probe) (acceptWr qp (live, overruns) wr).1 gone
      (acceptWr qp (live, overruns) wr).2 := by
  have tracking := (trackWrites_recordPostedWr qp wr probe).trans evident.tracking
  have alike : ∀ state history, Mirrors state history →
      QpState.isQp qp.pointer state = History.isQp qp.pointer history := by
    intro state history mirrors
    rw [QpState.isQp, History.isQp, mirrors.qp]
  rcases found_together evident.mirrors alike with ⟨missing, missing'⟩ |
    ⟨before, state, after, before', history, after', at_, at', mirrors, earlier, later⟩
  · simp only [acceptWr, missing']
    simp only [recordPostedWr, missing, rc, ne_eq, not_true_eq_false, if_false]
    split
    · exact evident.of_same rfl rfl rfl rfl rfl rfl
    · exact evident
  · obtain ⟨queuePairs, posted, completed, completionErrors, capacityErrors⟩ :=
      recordPostedWr_of_found wr rc at_
    have covered := covered_accept mirrors.delivered wr
    have replacePosted := total_replace (fun history => writeCount history.accepted)
      before' after' gone history (history.accept wr)
    have replaceCompleted := total_replace (fun history => writeCount history.covered)
      before' after' gone history (history.accept wr)
    have counted : writeCount (history.accept wr).accepted =
        writeCount history.accepted + if wr.isWrite then 1 else 0 := by
      rw [History.accept, writeCount_append, writeCount_singleton]
    simp only [acceptWr, at'.find, at'.modify]
    refine ⟨tracking, ?_, ?_, ?_, completionErrors.trans evident.completionErrors, ?_⟩
    · rw [queuePairs]
      exact List.rel_append earlier (.cons (mirrors.accept wr) later)
    · rw [posted, evident.posted, at'.items_eq]
      simp only [counted] at replacePosted
      omega
    · rw [completed, evident.completed, at'.items_eq]
      simp only [covered] at replaceCompleted
      omega
    · have below := history.writeCount_covered
      have overruns_ : (wr.isWrite = true ∧
          state.sendCapacity < subtract (state.posted + 1) state.completed) =
          history.Overruns wr := by
        have none_ : state.completed ≤ state.posted + 1 := by
          rw [mirrors.completed, mirrors.posted]
          omega
        rw [History.Overruns, subtract_of_le none_, mirrors.sendCapacity, mirrors.posted,
          mirrors.completed, writeCount_append, writeCount_singleton]
        cases wr.isWrite <;> simp
      rw [capacityErrors, evident.capacityErrors]
      simp only [overruns_]

/-- The loop over the chain, for the requests that the provider accepts. -/
theorem recordAccepted_eq {qp : Qp} {result : Int} {bad : Option Nat} {wrs : List SendWr}
    (tracking : probe.trackWrites = true) (names : result ≠ 0 → bad.isSome = true) :
    (recordAccepted qp result bad 0 wrs probe).2 =
      (acceptedWrs wrs result bad).foldl (fun probe wr => recordPostedWr qp wr probe) probe := by
  have onward : ∀ (wrs : List SendWr) (index : Nat) (probe : Probe), probe.trackWrites = true →
      index ≤ bad.getD 0 ∨ result = 0 → (recordAccepted qp result bad index wrs probe).2 =
        (if result = 0 then wrs else wrs.take (bad.getD 0 - index)).foldl
          (fun probe wr => recordPostedWr qp wr probe) probe := by
    intro wrs
    induction wrs with
    | nil =>
        intro index probe _ _
        rw [List.take_nil, ite_self]
        rfl
    | cons request rest inductionHypothesis =>
        intro index probe tracking below
        have tracking' := (trackWrites_recordPostedWr qp request probe).trans tracking
        rw [recordAccepted]
        by_cases success : result = 0
        · have later := inductionHypothesis (index + 1) _ tracking' (.inr success)
          rw [if_pos success] at later ⊢
          rw [if_neg (fun refused => refused.1 success), if_pos tracking, later]
          rfl
        · obtain ⟨position, named⟩ := Option.isSome_iff_exists.mp (names success)
          subst named
          replace below : index ≤ position := below.resolve_right success
          rw [if_neg success, Option.getD_some]
          by_cases last : position = index
          · subst last
            rw [if_pos ⟨success, .inr rfl⟩, Nat.sub_self]
            rfl
          · have more : position - index = position - (index + 1) + 1 := by omega
            have onward : index + 1 ≤ position := by omega
            have later := inductionHypothesis (index + 1) _ tracking' (.inl onward)
            have accepted :
                ¬(result ≠ 0 ∧ (some position = none ∨ some position = some index)) := by
              simp [last]
            rw [if_neg success, Option.getD_some] at later
            rw [if_neg accepted, if_pos tracking, later, more]
            rfl
  rw [onward wrs 0 probe tracking (.inl (Nat.zero_le _))]
  rfl

/-- The accepted requests of a post, one after the other. -/
theorem Evident.acceptAll (evident : Evident probe live gone overruns) {qp : Qp}
    (rc : qp.qpType = .rc) (wrs : List SendWr) :
    Evident (wrs.foldl (fun probe wr => recordPostedWr qp wr probe) probe)
      (wrs.foldl (acceptWr qp) (live, overruns)).1 gone
      (wrs.foldl (acceptWr qp) (live, overruns)).2 := by
  induction wrs generalizing probe live overruns with
  | nil => exact evident
  | cons wr rest inductionHypothesis => exact inductionHypothesis (evident.accept wr rc)

/-- The requests of other queue pairs leave no trace. -/
theorem foldl_recordPostedWr_of_not_rc {qp : Qp} (notRc : qp.qpType ≠ .rc) (wrs : List SendWr) :
    wrs.foldl (fun probe wr => recordPostedWr qp wr probe) probe = probe := by
  induction wrs with
  | nil => rfl
  | cons wr rest inductionHypothesis =>
      rw [List.foldl_cons, recordPostedWr, if_pos notRc, inductionHypothesis]

/-- One delivered completion. -/
theorem Evident.deliver (evident : Evident probe live gone overruns) {cq : Cq}
    {completion : WorkCompletion} (genuine : Genuine cq live completion) :
    Evident (recordSendCompletion cq completion probe) (deliverCompletion cq live completion) gone
      overruns := by
  have tracking :=
    (trackWrites_recordSendCompletion cq completion probe).trans evident.tracking
  have alike : ∀ state history, Mirrors state history →
      QpState.completes cq completion state = History.completes cq completion history := by
    intro state history mirrors
    rw [QpState.completes, History.completes, mirrors.qp]
  rcases found_together evident.mirrors alike with ⟨missing, missing'⟩ |
    ⟨before, state, after, before', history, after', at_, at', mirrors, earlier, later⟩
  · simp only [recordSendCompletion, deliverCompletion, missing, missing']
    exact evident
  · have member : history ∈ live := at'.items_eq ▸ List.mem_append_right _ (.head _)
    by_cases rc : history.qp.qpType = .rc
    · obtain ⟨success, next⟩ := genuine history member at'.here rc
      have rc' : state.qp.qpType = .rc := mirrors.qp ▸ rc
      cases receive : completion.receive with
      | true =>
          simp only [recordSendCompletion, deliverCompletion, at_.find, at'.find, success, receive]
          simpa [rc'] using evident
      | false =>
          have headId := mirrors.head_wrId.trans (next receive)
          cases waiting : state.pending with
          | nil =>
              rw [waiting] at headId
              cases headId
          | cons signaled rest =>
              rw [waiting] at headId
              have sameId : signaled.wrId = completion.wrId := Option.some.inj headId
              have covered := mirrors.covered_deliver waiting
              have more := history.writeCount_covered_deliver
              have replacePosted := total_replace (fun history => writeCount history.accepted)
                before' after' gone history history.deliver
              have replaceCompleted := total_replace (fun history => writeCount history.covered)
                before' after' gone history history.deliver
              have posted : total (fun history => writeCount history.accepted)
                  (before' ++ history.deliver :: after') gone =
                  total (fun history => writeCount history.accepted)
                    (before' ++ history :: after') gone := Nat.add_right_cancel replacePosted
              have below : state.completed ≤ signaled.writeSequence := by
                rw [mirrors.completed, covered]
                exact more
              simp only [recordSendCompletion, deliverCompletion, at_.find, at'.find, at'.modify,
                waiting, success, receive, sameId, mirrors.qp, rc, ne_eq, not_true_eq_false,
                Bool.not_true, Bool.false_eq_true, if_false, and_self, if_true,
                subtract_of_le below]
              have changed : List.Forall₂ Mirrors (modifyFirst (QpState.completes cq completion)
                  (fun state => state.retire signaled) probe.queuePairs)
                  (before' ++ history.deliver :: after') := by
                rw [at_.modify]
                exact List.rel_append earlier (.cons (mirrors.deliver waiting) later)
              refine ⟨evident.tracking, changed, ?_, ?_, evident.completionErrors,
                evident.capacityErrors⟩
              · rw [posted, ← at'.items_eq]
                exact evident.posted
              · have before_ := evident.completed
                rw [at'.items_eq] at before_
                have own := mirrors.completed
                simp only [Probe.logSubtraction]
                omega
    · have rc' : state.qp.qpType ≠ .rc := mirrors.qp ▸ rc
      simp only [recordSendCompletion, deliverCompletion, at_.find, at'.find]
      simpa [rc', rc] using evident

/-- The completions of a poll, each of them genuine after the ones before it. -/
theorem Evident.deliverAll (evident : Evident probe live gone overruns) {cq : Cq}
    {completions : List WorkCompletion} (genuine : GenuineAll cq live completions) :
    Evident (completions.foldl (fun probe entry => recordSendCompletion cq entry probe) probe)
      (completions.foldl (deliverCompletion cq) live) gone overruns := by
  induction completions generalizing probe live with
  | nil => exact evident
  | cons completion rest inductionHypothesis =>
      exact inductionHypothesis (evident.deliver genuine.1) genuine.2

/-- A destroyed queue pair takes its history along. -/
theorem Evident.destroy (evident : Evident probe live gone overruns) (pointer : Nat) :
    Evident (destroyQp pointer 0 probe) (live.eraseP (History.isQp pointer))
      ((live.find? (History.isQp pointer)).toList ++ gone) overruns := by
  have alike : ∀ state history, Mirrors state history →
      QpState.isQp pointer state = History.isQp pointer history := by
    intro state history mirrors
    rw [QpState.isQp, History.isQp, mirrors.qp]
  rw [destroyQp, if_neg (not_not_intro rfl)]
  rcases found_together evident.mirrors alike with ⟨missing, missing'⟩ |
    ⟨before, state, after, before', history, after', at_, at', -, earlier, later⟩
  · have nothing : live.eraseP (History.isQp pointer) = live :=
      List.eraseP_of_forall_not (List.find?_eq_none.mp missing')
    simp only [missing, missing', nothing]
    exact evident
  · have moved : ∀ measure, total measure (before' ++ after') (history :: gone) =
        total measure live gone := by
      intro measure
      rw [at'.items_eq]
      simp only [total, List.map_append, List.map_cons, List.sum_append, List.sum_cons]
      omega
    have removed : List.Forall₂ Mirrors (probe.queuePairs.eraseP (QpState.isQp pointer))
        (before' ++ after') := by
      rw [at_.erase]
      exact List.rel_append earlier later
    simp only [at_.find, at'.find, at'.erase, evident.tracking, if_true]
    exact ⟨evident.tracking, removed, evident.posted.trans (moved _).symm,
      evident.completed.trans (moved _).symm, evident.completionErrors, evident.capacityErrors⟩

/-- A whole post: the probe records exactly the requests that the provider has accepted. -/
theorem Evident.observedPostSend (evident : Evident probe live gone overruns) {tid : Nat}
    {qp : Qp} {wrs : List SendWr} {result : Int} {bad : Option Nat} {after : Probe}
    (names : result ≠ 0 → bad.isSome = true)
    (posted : observedPostSend tid qp wrs result bad probe = some after) :
    ∃ recorded : Probe, recorded = (acceptedWrs wrs result bad).foldl
        (fun probe wr => recordPostedWr qp wr probe) (countPost tid qp probe) ∧
      ∀ live' gone' overruns', Evident recorded live' gone' overruns' →
        Evident after live' gone' overruns' := by
  unfold VerbsProbe.observedPostSend at posted
  split at posted
  · cases posted
  · have tracking : (countPost tid qp probe).trackWrites = true := evident.tracking
    obtain rfl := Option.some.inj posted
    refine ⟨_, rfl, fun live' gone' overruns' recorded => ?_⟩
    rw [← recordAccepted_eq tracking names] at recorded
    split <;> exact recorded.of_same rfl rfl rfl rfl rfl rfl

/-- A whole poll: while completions are held nothing is delivered, and otherwise all of them are
recorded. -/
theorem Evident.observedPollCq (evident : Evident probe live gone overruns) {tid : Nat}
    {cq : Cq} {count : Int} {polled : Option (List WorkCompletion)} {after : Probe × PollResult}
    (genuine : probe.pauseCompletions = true ∨
      (polled.isSome = true ∧ GenuineAll cq live (polled.getD [])))
    (returned : observedPollCq tid cq count polled probe = some after) :
    Evident after.1
      (if probe.pauseCompletions then live
        else (polled.getD []).foldl (deliverCompletion cq) live) gone overruns := by
  have known : cq.context ∈ probe.contexts := by
    apply Classical.byContradiction
    intro unknown
    rw [VerbsProbe.observedPollCq, if_pos unknown] at returned
    cases returned
  cases held : probe.pauseCompletions with
  | true =>
      rw [observedPollCq_held known held] at returned
      obtain rfl := Option.some.inj returned
      exact evident.of_same rfl rfl rfl rfl rfl rfl
  | false =>
      rw [observedPollCq_open known held] at returned
      obtain rfl := Option.some.inj returned
      obtain ⟨succeeds, genuine⟩ := genuine.resolve_left (by simp [held])
      obtain ⟨entries, rfl⟩ := Option.isSome_iff_exists.mp succeeds
      have counted : Evident (recordPolled cq count (some entries) (countPoll tid probe))
          (entries.foldl (deliverCompletion cq) live) gone overruns := by
        refine Evident.deliverAll ?_ genuine
        exact evident.of_same rfl rfl rfl rfl rfl rfl
      have tracking : probe.trackWrites = true := evident.tracking
      simp only [tracking, if_true, Bool.false_eq_true, if_false, Option.getD_some]
      unfold countCompletions
      split
      · exact counted
      · exact counted.of_same rfl rfl rfl rfl rfl rfl

end Steps

/-! ### Every run

That the provider is honest is used in each poll: a completion is the one of the next signaled
request. -/

def EvidenceWorld.Exact (world : EvidenceWorld) : Prop :=
  Evident world.probe world.live world.gone world.overruns

/-- At the start of a measurement nothing has been posted. -/
theorem exact_start (probe : Probe) : (EvidenceWorld.start probe).Exact := by
  have nothing : ∀ measure : History → Nat, (∀ state : QpState, measure state.newHistory = 0) →
      0 = total measure (EvidenceWorld.start probe).live [] := by
    intro measure zero
    have constant : (probe.queuePairs.map (measure ∘ QpState.newHistory)).sum = 0 := by
      apply List.sum_eq_zero_iff_forall_eq_nat.mpr
      intro value member
      obtain ⟨state, -, rfl⟩ := List.mem_map.mp member
      exact zero state
    simp only [total, EvidenceWorld.start, List.map_map, constant, List.map_nil, List.sum_nil,
      Nat.add_zero]
  refine ⟨rfl, ?_, nothing _ fun _ => rfl, nothing _ fun _ => rfl, rfl, rfl⟩
  refine List.forall₂_map_left_iff.mpr (List.forall₂_map_right_iff.mpr
    (List.forall₂_same.mpr fun state _ => ?_))
  exact ⟨rfl, rfl, rfl, rfl, rfl, rfl, Nat.le_refl 0⟩

/-- Every event of an honest provider keeps the counters exact. -/
theorem exact_step {world after : EvidenceWorld} {event : Event} (exact_ : world.Exact)
    (honest : Honest world event) (taken : evidenceSystem.step world event = some after) :
    after.Exact := by
  obtain ⟨probe, stepped, rfl⟩ := Option.map_eq_some_iff.mp taken
  have resumed : ∀ pointer, Evident (resumeForShutdown pointer world.probe) world.live world.gone
      world.overruns := by
    intro pointer
    unfold resumeForShutdown
    split
    · exact exact_.of_same rfl rfl rfl rfl rfl rfl
    · exact exact_
  cases event with
  | openDevice context =>
      obtain rfl := Option.some.inj stepped
      exact exact_.of_same rfl rfl rfl rfl rfl rfl
  | closeDevice context result =>
      simp only [Probe.step, closeDevice] at stepped
      split at stepped
      · cases stepped
      · split at stepped <;> obtain rfl := Option.some.inj stepped
        · exact exact_.of_same rfl rfl rfl rfl rfl rfl
        · exact exact_
  | createQp qp maxSendWr sqSigAll =>
      obtain rfl := Option.some.inj stepped
      have fresh : ∀ measure : History → Nat, ∀ history, measure history = 0 →
          total measure (history :: world.live) world.gone =
            total measure world.live world.gone := by
        intro measure history zero
        simp only [total, List.map_cons, List.sum_cons, zero, Nat.zero_add]
      refine ⟨exact_.tracking, .cons ⟨rfl, rfl, rfl, rfl, rfl, rfl, Nat.le_refl 0⟩ exact_.mirrors,
        ?_, ?_, exact_.completionErrors, exact_.capacityErrors⟩
      · exact exact_.posted.trans (fresh _ _ rfl).symm
      · exact exact_.completed.trans (fresh _ _ rfl).symm
  | modifiedQp pointer stateInMask target result =>
      obtain rfl := Option.some.inj stepped
      change Evident (modifiedQp pointer stateInMask target result world.probe) _ _ _
      unfold modifiedQp
      split
      · exact resumed pointer
      · exact exact_
  | destroyRequested pointer =>
      obtain rfl := Option.some.inj stepped
      exact resumed pointer
  | destroyQp pointer result =>
      obtain rfl := Option.some.inj stepped
      by_cases success : result = 0
      · subst success
        exact exact_.destroy pointer
      · simp only [EvidenceWorld.Exact, EvidenceWorld.note, destroyQp, success, if_false, ne_eq,
          not_false_eq_true, if_true]
        exact exact_
  | postSend tid qp wrs result bad =>
      obtain ⟨recorded, rfl, later⟩ := exact_.observedPostSend honest.2 stepped
      have counted : Evident (countPost tid qp world.probe) world.live world.gone
          world.overruns := exact_.of_same rfl rfl rfl rfl rfl rfl
      unfold EvidenceWorld.Exact EvidenceWorld.note
      by_cases rc : qp.qpType = .rc
      · simp only [rc, if_true]
        exact later _ _ _ (counted.acceptAll rc _)
      · simp only [rc, if_false]
        apply later _ _ _
        rw [foldl_recordPostedWr_of_not_rc rc]
        exact counted
  | pollCq tid cq count polled =>
      obtain ⟨returned, polled', rfl⟩ := Option.map_eq_some_iff.mp stepped
      have polledEvident := Evident.observedPollCq exact_ honest polled'
      unfold EvidenceWorld.Exact EvidenceWorld.note
      split at polledEvident <;> rename_i held <;> simp only [held] <;> exact polledEvident
  | observeWrites enabled => exact absurd honest not_false
  | holdCompletions paused tid =>
      obtain rfl := Option.some.inj stepped
      exact exact_.of_same rfl rfl rfl rfl rfl rfl

/-- The accounting of the probe holds of a measurement, too. -/
theorem accounted_evidence {world : EvidenceWorld}
    (reached : evidenceSystem.Reachable Honest world) :
    ∃ abandoned, Accounted world.probe abandoned := by
  refine @LabelledSystem.Reachable.invariant _ _ _ _
    (fun world => ∃ abandoned, Accounted world.probe abandoned) ?_ ?_ _ reached
  · rintro world ⟨before, earlier, rfl⟩
    exact ⟨0, accounted_observeWrites (accounted_reachable earlier) true⟩
  · intro before event after ⟨abandoned, accounted⟩ _ taken
    obtain ⟨probe, stepped, rfl⟩ := Option.map_eq_some_iff.mp taken
    have taken' : accountingSystem.step ⟨before.probe, abandoned⟩ event =
        some ⟨probe, AccountingWorld.note ⟨before.probe, abandoned⟩ event⟩ :=
      Option.map_eq_some_iff.mpr ⟨probe, stepped, rfl⟩
    have kept : (before.note probe event).probe = probe := by
      cases event <;> simp only [EvidenceWorld.note] <;> split <;> rfl
    exact ⟨_, kept ▸ accounted_step accounted taken'⟩

/-- Every accepted WRITE is covered or uncovered. -/
theorem total_covered (live gone : List History) :
    total (fun history => writeCount history.covered) live gone +
      total (fun history => writeCount history.uncovered) live gone =
        total (fun history => writeCount history.accepted) live gone := by
  have sum : ∀ histories : List History,
      (histories.map fun history => writeCount history.covered).sum +
        (histories.map fun history => writeCount history.uncovered).sum =
          (histories.map fun history => writeCount history.accepted).sum := by
    intro histories
    induction histories with
    | nil => rfl
    | cons history rest inductionHypothesis =>
        have own := history.writeCount_covered
        simp only [List.map_cons, List.sum_cons]
        omega
  have liveSum := sum live
  have goneSum := sum gone
  simp only [total]
  omega

/-- No WRITE is uncovered when none is in any history. -/
theorem total_uncovered_eq_zero (live gone : List History) :
    total (fun history => writeCount history.uncovered) live gone = 0 ↔
      ∀ history ∈ live ++ gone, ∀ wr ∈ history.uncovered, wr.opcode ≠ .rdmaWrite := by
  have own : ∀ history : History, writeCount history.uncovered = 0 ↔
      ∀ wr ∈ history.uncovered, wr.opcode ≠ .rdmaWrite := by
    intro history
    rw [writeCount, List.countP_eq_zero]
    simp only [SendWr.isWrite, decide_eq_true_eq, ne_eq]
  rw [total, ← List.sum_append, ← List.map_append, List.sum_eq_zero_iff_forall_eq_nat,
    List.forall_mem_map]
  exact forall_congr' fun history => imp_congr_right fun _ => own history

/-- Selective signaling gives exact evidence.  In every run of a measurement with an honest
provider, the counters of the probe are the numbers of accepted WRITEs, of WRITEs at or before the
last delivered signaled completion of their own queue pair, and of WRITEs that overran their queue
pair; no completion error is counted; and all posted WRITEs are completed with none in flight
exactly when a delivered completion covers each accepted WRITE. -/
theorem evidence_exact {world : EvidenceWorld}
    (reached : evidenceSystem.Reachable Honest world) :
    world.probe.writes.posted =
      total (fun history => writeCount history.accepted) world.live world.gone ∧
    world.probe.writes.completed =
      total (fun history => writeCount history.covered) world.live world.gone ∧
    world.probe.writes.completionErrors = 0 ∧
    (world.probe.writes.capacityErrors = 0 ↔ world.overruns = 0) ∧
    (world.probe.writes.completed = world.probe.writes.posted ∧ world.probe.writes.inFlight = 0 ↔
      ∀ history ∈ world.live ++ world.gone, ∀ wr ∈ history.uncovered, wr.opcode ≠ .rdmaWrite) := by
  have exact_ : world.Exact := by
    refine reached.invariant ?_ fun before event after exact_ honest taken =>
      exact_step exact_ honest taken
    rintro world ⟨before, -, rfl⟩
    exact exact_start before.probe
  obtain ⟨abandoned, accounted⟩ := accounted_evidence reached
  have posted := exact_.posted
  have completed := exact_.completed
  have covered := total_covered world.live world.gone
  have balance := accounted.total
  refine ⟨posted, completed, exact_.completionErrors, by rw [exact_.capacityErrors], ?_⟩
  rw [← total_uncovered_eq_zero]
  omega

/-- Two queue pairs share a completion queue: on the first, one signaled request covers two WRITEs
and leaves a third one uncovered; the second one, with room for one WRITE, overruns. -/
def selectiveSignaling : List Event :=
  [.createQp firstPoster 16 false, .createQp secondPoster 1 false,
    .postSend 3 firstPoster [{ sampleWrite with signaled := false }, sampleWrite,
      { sampleWrite with signaled := false }] 0 none,
    .postSend 3 secondPoster [sampleWrite, sampleWrite, sampleWrite] (-1) (some 2),
    .pollCq 4 ⟨7, 1⟩ 8 (some [⟨5, 1, true, false⟩])]

theorem evidence_exact_selective : ∃ world : EvidenceWorld,
    world.probe.writes.posted = 5 ∧ world.probe.writes.completed = 2 ∧
      world.probe.writes.capacityErrors ≠ 0 ∧
      ¬∀ history ∈ world.live ++ world.gone, ∀ wr ∈ history.uncovered,
        wr.opcode ≠ .rdmaWrite := by
  have opened : accountingSystem.step {} (.openDevice 1) = some ⟨openDevice 1 {}, 0⟩ := rfl
  have start : evidenceSystem.Initial (.start (openDevice 1 {})) :=
    ⟨_, .step (.initial rfl) trivial opened, rfl⟩
  have computed : ∃ world, evidenceSystem.Reachable Honest world ∧
      world.probe.writes.posted = 5 ∧ world.probe.writes.completed = 2 ∧ world.overruns ≠ 0 :=
    LabelledSystem.exists_reachable (.initial start) selectiveSignaling (by decide)
  obtain ⟨world, reached, posted, completed, overruns⟩ := computed
  obtain ⟨-, -, -, capacity, covered⟩ := evidence_exact reached
  refine ⟨world, posted, completed, fun zero => overruns (capacity.mp zero), fun every => ?_⟩
  have same := (covered.mpr every).1
  rw [posted, completed] at same
  cases same

end Rdma101.VerbsProbe
