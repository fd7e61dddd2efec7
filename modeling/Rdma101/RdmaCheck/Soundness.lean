/-
Module: Rdma101.RdmaCheck.Soundness
Purpose: The environment check gives no false PASS: the parent exits with 0 only after a polled
  WRITE, a checked buffer and clean releases, whatever fails.
Trusted boundary: none
Main exports: Evidence, evidence_step, environment_check_sound
-/
import Rdma101.RdmaCheck.Streams

namespace Rdma101.RdmaCheck

/-! ### What a PASS rests on

The log of a run records each answer.  The evidence for a verdict is found in it, in the order
of the steps, so that nothing has to be trusted about the state. -/

/-- The log holds a WRITE that was posted and whose successful completion was polled last. -/
def WritePolled (log : List (Role × Move)) : Prop :=
  ∃ polls poll, (.sender, .writeAndWait 0 polls) ∈ log ∧ polls.getLast? = some poll ∧
    0 < poll.count ∧ poll.success = true ∧ poll.wrId = 1 ∧ poll.isRdmaWrite = true

/-- Every byte of the payload and of both guards is right. -/
structure Intact (buffer : Nat → UInt8) : Prop where
  front : ∀ index < guardSize, buffer index = guardValue
  payload : ∀ index < payloadSize, buffer (guardSize + index) = pattern index
  back : ∀ index < guardSize, buffer (guardSize + payloadSize + index) = guardValue

/-- The receiver has checked its buffer, after the WRITE was polled. -/
def VerifiedAfter (log : List (Role × Move)) : Prop :=
  ∃ before buffer after, log = before ++ (.receiver, .verify buffer) :: after ∧
    Intact buffer ∧ WritePolled before

/-- The endpoint has released its resources without an error. -/
def Released (role : Role) (log : List (Role × Move)) : Prop := (role, .cleanup {}) ∈ log

/-- A round that lets the loop return normally has polled the completion of the WRITE. -/
theorem Poll.of_ends {poll : Poll} (success : poll.ends = some true) :
    0 < poll.count ∧ poll.success = true ∧ poll.wrId = 1 ∧ poll.isRdmaWrite = true := by
  unfold Poll.ends at success
  split at success
  · cases success
  · rename_i notNegative
    split at success
    · rename_i found
      simp only [Option.some.injEq, Bool.and_eq_true, decide_eq_true_eq] at success
      exact ⟨by omega, success.1.1, success.1.2, success.2⟩
    · split at success <;> cases success

/-- A loop that returned normally ended with its last poll. -/
theorem pollLoop_success {polls : List Poll} (success : pollLoop polls = some true) :
    ∃ poll, polls.getLast? = some poll ∧ poll.ends = some true := by
  induction polls with
  | nil => cases success
  | cons poll rest inductionHypothesis =>
      rw [pollLoop] at success
      cases ended : poll.ends with
      | none =>
          rw [ended] at success
          obtain ⟨last, isLast, good⟩ := inductionHypothesis success
          exact ⟨last, by rw [List.getLast?_cons, isLast]; rfl, good⟩
      | some ok =>
          rw [ended] at success
          obtain ⟨rfl, isOk⟩ : rest = [] ∧ ok = true := by simpa using success
          exact ⟨poll, rfl, isOk ▸ ended⟩

/-- The WRITE was posted and polled when `write_and_wait` returns normally. -/
theorem writePolled_of_success {log : List (Role × Move)} {posted : Int} {polls : List Poll}
    (member : (.sender, .writeAndWait posted polls) ∈ log)
    (success : writeAndWait posted polls = some true) : WritePolled log := by
  unfold writeAndWait at success
  split at success
  · rename_i isPosted
    have isZero : posted = 0 := by simpa [check] using isPosted
    obtain ⟨poll, isLast, ended⟩ := pollLoop_success success
    exact ⟨polls, poll, isZero ▸ member, isLast, Poll.of_ends ended⟩
  · split at success <;> cases success

/-- The loop of `verify` covers the payload and both guards. -/
theorem intact_of_verify {buffer : Nat → UInt8} (correct : verify buffer = true) :
    Intact buffer := by
  have every : ∀ index < bufferSize, buffer index = expectedByte index := by
    simpa [verify] using correct
  have size : bufferSize = guardSize + payloadSize + guardSize := rfl
  refine ⟨fun index below => ?_, fun index below => ?_, fun index below => ?_⟩
  · rw [every index (by omega), expectedByte, if_neg (by omega)]
  · rw [every _ (by omega), expectedByte, if_pos (by omega), Nat.add_sub_cancel_left]
  · rw [every _ (by omega), expectedByte, if_neg (by omega)]

/-- What the log says about an endpoint. -/
structure Evidence (log : List (Role × Move)) (role : Role) (e : Endpoint) : Prop where
  resources : .createResources ∈ e.done → e.resources = ⟨true, true, true, true, true⟩
  polled : role = .sender → .writeAndWait ∈ e.done → WritePolled log
  verified : role = .receiver → .verify ∈ e.done → VerifiedAfter log
  trying : e.phase = .trying → e.failed = false
  complete : e.failed = false → e.phase ≠ .trying → e.phase ≠ .killed → e.todo = []
  released : e.failed = false → e.phase ≠ .trying → e.phase ≠ .cleanup → e.phase ≠ .killed →
    Released role log
  noWait : role = .receiver → e.phase ≠ .wait
  exited : role = .receiver → ∀ code, e.phase = .exited code → code = e.failed.toNat
  passed : role = .sender → e.phase = .exited 0 →
    e.failed = false ∧ VerifiedAfter log ∧ Released .receiver log

section Log

variable {log : List (Role × Move)} {role : Role} {e : Endpoint}

theorem WritePolled.append (polled : WritePolled log) (later : List (Role × Move)) :
    WritePolled (log ++ later) := by
  obtain ⟨polls, poll, member, good⟩ := polled
  exact ⟨polls, poll, List.mem_append_left _ member, good⟩

theorem VerifiedAfter.append (verified : VerifiedAfter log) (later : List (Role × Move)) :
    VerifiedAfter (log ++ later) := by
  obtain ⟨before, buffer, after, rfl, correct, polled⟩ := verified
  exact ⟨before, buffer, after ++ later, by rw [List.append_assoc, List.cons_append], correct,
    polled⟩

theorem Released.append (released : Released role log) (later : List (Role × Move)) :
    Released role (log ++ later) := List.mem_append_left later released

/-- A log that grows loses no evidence. -/
theorem Evidence.append (evidence : Evidence log role e) (later : List (Role × Move)) :
    Evidence (log ++ later) role e where
  resources := evidence.resources
  polled isSender member := (evidence.polled isSender member).append later
  verified isReceiver member := (evidence.verified isReceiver member).append later
  trying := evidence.trying
  complete := evidence.complete
  released success notTrying notCleanup notKilled :=
    (evidence.released success notTrying notCleanup notKilled).append later
  noWait := evidence.noWait
  exited := evidence.exited
  passed isSender phase :=
    have ⟨success, verified, released⟩ := evidence.passed isSender phase
    ⟨success, verified.append later, released.append later⟩

/-- A transfer that goes on. -/
theorem Evidence.pending (evidence : Evidence log role e) (pending : Bytes) :
    Evidence log role { e with pending := pending } :=
  ⟨evidence.resources, evidence.polled, evidence.verified, evidence.trying, evidence.complete,
    evidence.released, evidence.noWait, evidence.exited, evidence.passed⟩

theorem Evidence.throw (evidence : Evidence log role e) : Evidence log role e.throw where
  resources := evidence.resources
  polled := evidence.polled
  verified := evidence.verified
  trying phase := by cases phase
  complete success := by cases success
  released success := by cases success
  noWait _ phase := by cases phase
  exited _ _ phase := by cases phase
  passed _ phase := by cases phase

theorem Evidence.killed (evidence : Evidence log role e) :
    Evidence log role { e with phase := .killed } where
  resources := evidence.resources
  polled := evidence.polled
  verified := evidence.verified
  trying phase := by cases phase
  complete _ _ notKilled := absurd rfl notKilled
  released _ _ _ notKilled := absurd rfl notKilled
  noWait _ phase := by cases phase
  exited _ _ phase := by cases phase
  passed _ phase := by cases phase

/-- What the end of an action has to show. -/
structure Shows (log : List (Role × Move)) (role : Role) (held : Resources) (action : Action) :
    Prop where
  resources : action = .createResources → held = ⟨true, true, true, true, true⟩
  polled : role = .sender → action = .writeAndWait → WritePolled log
  verified : role = .receiver → action = .verify → VerifiedAfter log

/-- Most actions have nothing to show. -/
theorem Shows.nothing {held : Resources} {action : Action} (create : action ≠ .createResources)
    (write : action ≠ .writeAndWait) (verify : action ≠ .verify) : Shows log role held action :=
  ⟨fun is => absurd is create, fun _ is => absurd is write, fun _ is => absurd is verify⟩

/-- The current action is complete, with what it shows. -/
theorem Evidence.completed (evidence : Evidence log role e) (phase : e.phase = .trying)
    {action : Action} {rest : List Action} (todo : e.todo = action :: rest)
    {received : List Bytes} (shows_ : Shows log role e.resources action) :
    Evidence log role { e.complete with received := received } := by
  have success := evidence.trying phase
  have complete : e.complete = { e with
      done := e.done ++ [action]
      todo := rest
      pending := []
      phase := if rest = [] then .cleanup else e.phase } := by
    rw [Endpoint.complete, todo]
  rw [complete, phase]
  refine ⟨fun member => ?_, fun isSender member => ?_, fun isReceiver member => ?_,
    fun _ => success, fun _ notTrying _ => ?_, fun _ notTrying notCleanup _ => ?_,
    fun _ => ?_, fun _ code isExited => ?_, fun _ isExited => ?_⟩
  · rcases List.mem_append.mp member with earlier | last
    · exact evidence.resources earlier
    · exact shows_.resources (List.mem_singleton.mp last).symm
  · rcases List.mem_append.mp member with earlier | last
    · exact evidence.polled isSender earlier
    · exact shows_.polled isSender (List.mem_singleton.mp last).symm
  · rcases List.mem_append.mp member with earlier | last
    · exact evidence.verified isReceiver earlier
    · exact shows_.verified isReceiver (List.mem_singleton.mp last).symm
  · by_cases noRest : rest = []
    · exact noRest
    · exact absurd (if_neg noRest) notTrying
  · by_cases noRest : rest = []
    · exact absurd (if_pos noRest) notCleanup
    · exact absurd (if_neg noRest) notTrying
  · dsimp only
    split <;> simp
  · dsimp only at isExited
    split at isExited <;> cases isExited
  · dsimp only at isExited
    split at isExited <;> cases isExited

/-- The end of an action that neither sends nor receives. -/
theorem Evidence.finish (evidence : Evidence log role e) (phase : e.phase = .trying)
    {action : Action} {rest : List Action} (todo : e.todo = action :: rest) {ok : Bool}
    (shows_ : ok = true → Shows log role e.resources action) :
    Evidence log role (e.finish ok) := by
  cases ok with
  | true => exact evidence.completed phase todo (shows_ rfl)
  | false => exact evidence.throw

end Log

/-! ### What was done before

Scripts are in a fixed order, so an endpoint at a later action has done the earlier ones; and
the receiver's place tells the place of the sender by what it has received. -/

section Before

variable {setting : Setting} {world : World}

/-- An endpoint has not sent more than its current action allows. -/
theorem Progress.length_own_le {role : Role} {e : Endpoint} {own peer : Bytes}
    (sized : ∀ role, (setting.metadata role).length = metadataSize)
    (progress : Progress setting role e own peer) :
    own.length ≤ sentBefore role (e.done.length + 1) := by
  have before : sentBefore role e.done.length ≤ sentBefore role (e.done.length + 1) := by
    rw [sentBefore, sentBefore, List.take_add_one, List.sum_append]
    exact Nat.le_add_right _ _
  have length := progress.length_own sized
  have underWay := progress.underWay
  cases todo : e.todo with
  | nil =>
      have sending : e.sending = [] := by rw [Endpoint.sending, todo]
      rw [length, sending]
      exact before
  | cons action rest =>
      cases action with
      | send data =>
          have sending : e.sending = e.pending := by rw [Endpoint.sending, todo]
          obtain ⟨-, shorter⟩ := underWay (.send data) (by rw [todo]; rfl)
          have outSize : (outSizes role)[e.done.length]? = some data.length := by
            rw [← outSizes_eq sized, List.getElem?_map, progress.current todo]
            rfl
          rw [length, sending, sentBefore, sentBefore, sum_take_succ outSize]
          exact Nat.add_le_add_left (Nat.le_of_lt shorter) _
      | _ =>
          have sending : e.sending = [] := by rw [Endpoint.sending, todo]
          rw [length, sending]
          exact before

/-- The receiver verifies its buffer only after the sender has sent `D`, which comes after the
WRITE. -/
theorem written_before_verify (sized : ∀ role, (setting.metadata role).length = metadataSize)
    (synchronous : Synchronous setting world) {rest : List Action}
    (todo : (world.endpoint .receiver).todo = .verify :: rest) :
    .writeAndWait ∈ (world.endpoint .sender).done := by
  have receiver := synchronous .receiver
  have sender := synchronous .sender
  have position : (world.endpoint .receiver).done.length = 8 := by
    have current := receiver.current todo
    have kinds : (script .receiver (setting.metadata .receiver)).map
        (fun action => decide (action = .verify)) =
          [false, false, false, false, false, false, false, false, true, false] := by
      simp [script]
    have here : [false, false, false, false, false, false, false, false, true, false][
        (world.endpoint .receiver).done.length]? = some true := by
      rw [← kinds, List.getElem?_map, current]
      rfl
    have only : ∀ position < 10, [false, false, false, false, false, false, false, false, true,
        false][position]? = some true → position = 8 := by decide
    exact only _ (List.getElem?_eq_some_iff.mp here).1 here
  have consumed := receiver.length_consumed
  have behind := receiver.peer.length_le
  have sent := sender.length_own_le sized
  have tokens : takenBefore .receiver 8 = 42 := rfl
  have early : ∀ position < 8, sentBefore .sender (position + 1) ≤ 41 := by decide
  have far : 8 ≤ (world.endpoint .sender).done.length := by
    rw [position, tokens] at consumed
    simp only [Role.other] at behind
    apply Nat.le_of_not_lt
    intro near
    have little := early _ near
    omega
  have place : (world.endpoint .sender).done[7]? = some .writeAndWait := by
    rw [sender.done_eq, List.getElem?_take_of_lt far]
    rfl
  exact List.mem_of_getElem? place

/-- Resources are created once, as the second action. -/
theorem not_created_before (synchronous : Synchronous setting world) {role : Role}
    {rest : List Action} (todo : (world.endpoint role).todo = .createResources :: rest) :
    .createResources ∉ (world.endpoint role).done := by
  have splits := (synchronous role).splits
  rw [todo] at splits
  have once : (script role (setting.metadata role)).count .createResources = 1 := by
    cases role <;> simp [script]
  rw [← splits, List.count_append, List.count_cons_self] at once
  exact List.count_eq_zero.mp (by omega)

/-- A check that returns early with a failure. -/
theorem of_guard {refused : Prop} [Decidable refused] {early final : Resources}
    {later : Resources × Bool} (goesOn : later.2 = true → later.1 = final) :
    (if refused then (early, false) else later).2 = true →
      (if refused then (early, false) else later).1 = final := by
  split
  · intro isOk
    cases isOk
  · exact goesOn

/-- A function that returns normally has created all resources. -/
theorem createResources_ok {deviceName : String} {gidIndex : Nat} {answers : DeviceAnswers}
    (ok : (createResources deviceName gidIndex answers).2 = true) :
    (createResources deviceName gidIndex answers).1 = ⟨true, true, true, true, true⟩ := by
  revert ok
  unfold createResources
  cases answers.devices with
  | none =>
      intro isOk
      cases isOk
  | some devices =>
      dsimp only
      repeat refine of_guard ?_
      exact fun _ => rfl

/-- A cleanup without an error has released them all. -/
theorem cleanup_ok {errors : ReleaseErrors}
    (ok : cleanup ⟨true, true, true, true, true⟩ errors = false) : errors = {} := by
  cases errors
  simp_all [cleanup]

end Before

/-! ### The evidence along a run

One lemma for each kind of step.  An action that neither sends nor receives adds its own answer
to the evidence; the other steps keep what is there. -/

section Run

variable {setting : Setting} {world : World} {role : Role}

theorem evidence_advanceSend (evidence : Evidence world.log role (world.endpoint role))
    (phase : (world.endpoint role).phase = .trying) {data : Bytes} {rest : List Action}
    (todo : (world.endpoint role).todo = .send data :: rest) {move : Move} {e' : Endpoint}
    {chunk : Bytes} (advanced : world.advanceSend setting role data move = some (e', chunk)) :
    Evidence world.log role e' := by
  cases move with
  | transferred count =>
      simp only [World.advanceSend] at advanced
      split at advanced
      · obtain ⟨rfl, rfl⟩ := Prod.mk.inj (Option.some.inj advanced)
        split
        · exact evidence.completed phase todo (.nothing (by simp) (by simp) (by simp))
        · exact evidence.pending _
      · cases advanced
  | interrupted =>
      obtain ⟨rfl, rfl⟩ := Prod.mk.inj (Option.some.inj advanced)
      exact evidence
  | ioFails =>
      obtain ⟨rfl, rfl⟩ := Prod.mk.inj (Option.some.inj advanced)
      exact evidence.throw
  | _ => cases advanced

theorem evidence_advanceReceive (evidence : Evidence world.log role (world.endpoint role))
    (phase : (world.endpoint role).phase = .trying) {size : Nat} {expected : Option UInt8}
    {rest : List Action} (todo : (world.endpoint role).todo = .receive size expected :: rest)
    {move : Move} {e' : Endpoint} {chunk : Bytes}
    (advanced : world.advanceReceive role size expected move = some (e', chunk)) :
    Evidence world.log role e' := by
  cases move with
  | transferred count =>
      simp only [World.advanceReceive] at advanced
      split at advanced
      · split at advanced
        · obtain ⟨rfl, rfl⟩ := Prod.mk.inj (Option.some.inj advanced)
          have completed (received : List Bytes) : Evidence world.log role
              { (world.endpoint role).complete with received := received } :=
            evidence.completed phase todo (.nothing (by simp) (by simp) (by simp))
          split
          · exact completed _
          · exact (completed _).throw
        · obtain ⟨rfl, rfl⟩ := Prod.mk.inj (Option.some.inj advanced)
          exact evidence.pending _
      · cases advanced
  | interrupted =>
      obtain ⟨rfl, rfl⟩ := Prod.mk.inj (Option.some.inj advanced)
      exact evidence
  | ioFails =>
      obtain ⟨rfl, rfl⟩ := Prod.mk.inj (Option.some.inj advanced)
      exact evidence.throw
  | endOfStream =>
      simp only [World.advanceReceive] at advanced
      split at advanced
      · obtain ⟨rfl, rfl⟩ := Prod.mk.inj (Option.some.inj advanced)
        exact evidence.throw
      · cases advanced
  | _ => cases advanced

/-- What each of the other actions adds to the log. -/
theorem evidence_decided (sized : ∀ role, (setting.metadata role).length = metadataSize)
    (synchronous : Synchronous setting world)
    (evidence : ∀ role, Evidence world.log role (world.endpoint role))
    (phase : (world.endpoint role).phase = .trying) {action : Action} {rest : List Action}
    (todo : (world.endpoint role).todo = action :: rest) {move : Move} {resources : Resources}
    {ok : Bool}
    (how : Decided setting (world.endpoint role).resources action move resources ok) :
    Evidence (world.log ++ [(role, move)]) role
      (Endpoint.finish { world.endpoint role with resources := resources } ok) := by
  have before := (evidence role).append [(role, move)]
  cases how with
  | socketTimeouts ok =>
      exact before.finish phase todo fun _ => .nothing (by simp) (by simp) (by simp)
  | createResources answers =>
      have created : Evidence (world.log ++ [(role, .createResources answers)]) role
          { world.endpoint role with
            resources := (createResources setting.deviceName setting.gidIndex answers).1 } :=
        { before with
          resources := fun member => absurd member (not_created_before synchronous todo) }
      exact created.finish phase todo fun ok =>
        ⟨fun _ => createResources_ok ok, by simp, by simp⟩
  | connectQp toInit toRtr toRts =>
      exact before.finish phase todo fun _ => .nothing (by simp) (by simp) (by simp)
  | writeAndWait ended =>
      refine before.finish phase todo fun success =>
        ⟨by simp, fun isSender _ => ?_, by simp⟩
      subst isSender
      rw [success] at ended
      exact writePolled_of_success (List.mem_append_right _ (.head [])) ended
  | verify buffer =>
      refine before.finish phase todo fun correct =>
        ⟨by simp, by simp, fun isReceiver _ => ?_⟩
      subst isReceiver
      exact ⟨world.log, buffer, [], rfl, intact_of_verify correct,
        (evidence .sender).polled rfl (written_before_verify sized synchronous todo)⟩

theorem phase_ne {e : Endpoint} {now other : Phase} (phase : e.phase = now)
    (differ : now ≠ other) : e.phase ≠ other := by rwa [phase]

/-- An endpoint without a failure that has left its `try` block has done its whole script. -/
theorem done_of_success (synchronous : Synchronous setting world)
    (evidence : Evidence world.log role (world.endpoint role))
    (success : (world.endpoint role).failed = false)
    (notTrying : (world.endpoint role).phase ≠ .trying)
    (notKilled : (world.endpoint role).phase ≠ .killed) :
    (world.endpoint role).done = script role (setting.metadata role) := by
  have splits := (synchronous role).splits
  rwa [evidence.complete success notTrying notKilled, List.append_nil] at splits

/-- The releases are evidence when everything had been created. -/
theorem evidence_cleanup (synchronous : Synchronous setting world)
    (evidence : Evidence world.log role (world.endpoint role))
    (phase : (world.endpoint role).phase = .cleanup) (errors : ReleaseErrors) :
    Evidence (world.log ++ [(role, .cleanup errors)]) role { world.endpoint role with
      failed := (world.endpoint role).failed || cleanup (world.endpoint role).resources errors
      phase := .close } := by
  have before := evidence.append [(role, .cleanup errors)]
  refine ⟨before.resources, before.polled, before.verified, by simp, ?_, ?_, by simp, by simp,
    by simp⟩
  · intro success _ _
    exact evidence.complete (Bool.or_eq_false_iff.mp success).1 (phase_ne phase (by decide))
      (phase_ne phase (by decide))
  · intro success _ _ _
    obtain ⟨noFailure, clean⟩ := Bool.or_eq_false_iff.mp success
    have done := done_of_success synchronous evidence noFailure (phase_ne phase (by decide))
      (phase_ne phase (by decide))
    have created : .createResources ∈ (world.endpoint role).done := by
      rw [done]
      cases role <;> simp [script]
    rw [evidence.resources created] at clean
    rw [cleanup_ok clean]
    exact List.mem_append_right _ (.head [])

/-- The parent passes only if its child has exited with 0. -/
theorem exitCode_zero {failed : Bool} {phase : Phase}
    (passed : World.exitCode failed phase = some 0) : failed = false ∧ phase = .exited 0 := by
  cases phase with
  | exited code =>
      simp only [World.exitCode, Option.some.injEq] at passed
      split at passed
      · cases passed
      · rename_i isZero
        exact ⟨by simpa using passed, by rw [not_not.mp isZero]⟩
  | killed => simp [World.exitCode] at passed
  | _ => cases passed

/-- What a child that has exited with 0 has shown. -/
theorem receiver_passed (synchronous : Synchronous setting world)
    (evidence : Evidence world.log .receiver (world.endpoint .receiver))
    (phase : (world.endpoint .receiver).phase = .exited 0) :
    VerifiedAfter world.log ∧ Released .receiver world.log := by
  have success : (world.endpoint .receiver).failed = false := by
    have code := evidence.exited rfl 0 phase
    cases failed : (world.endpoint .receiver).failed with
    | false => rfl
    | true =>
        rw [failed] at code
        cases code
  have left (other : Phase) (differ : .exited 0 ≠ other) :
      (world.endpoint .receiver).phase ≠ other := phase_ne phase differ
  have done := done_of_success synchronous evidence success (left _ (by decide))
    (left _ (by decide))
  refine ⟨evidence.verified rfl ?_, evidence.released success (left _ (by decide))
    (left _ (by decide)) (left _ (by decide))⟩
  rw [done]
  simp [script]

/-- A process that has left its `try` block changes its phase. -/
theorem Evidence.moves (evidence : Evidence world.log role (world.endpoint role))
    (phase : (world.endpoint role).phase = .close ∨ (world.endpoint role).phase = .wait)
    (next : Phase)
    (ended : next ≠ .trying ∧ next ≠ .cleanup ∧ next ≠ .killed)
    (noWait : role = .receiver → next ≠ .wait)
    (exited : role = .receiver →
      ∀ code, next = .exited code → code = (world.endpoint role).failed.toNat)
    (passed : role = .sender → next = .exited 0 → (world.endpoint role).failed = false ∧
      VerifiedAfter world.log ∧ Released .receiver world.log) :
    Evidence world.log role { world.endpoint role with phase := next } := by
  have left (other : Phase) (notClose : .close ≠ other) (notWait : .wait ≠ other) :
      (world.endpoint role).phase ≠ other :=
    phase.elim (phase_ne · notClose) (phase_ne · notWait)
  have notTrying := left .trying (by decide) (by decide)
  have notCleanup := left .cleanup (by decide) (by decide)
  have notKilled := left .killed (by decide) (by decide)
  exact
    { resources := evidence.resources
      polled := evidence.polled
      verified := evidence.verified
      trying := fun isTrying => absurd isTrying ended.1
      complete := fun success _ _ => evidence.complete success notTrying notKilled
      released := fun success _ _ _ => evidence.released success notTrying notCleanup notKilled
      noWait, exited, passed }

theorem evidence_advanced (sized : ∀ role, (setting.metadata role).length = metadataSize)
    (synchronous : Synchronous setting world)
    (evidence : ∀ role, Evidence world.log role (world.endpoint role)) {move : Move}
    {e' : Endpoint} {chunk : Bytes} (advanced : Advanced setting world role move e' chunk) :
    Evidence (world.log ++ [(role, move)]) role e' := by
  have notReceiver (phase : (world.endpoint role).phase = .wait) : role ≠ .receiver :=
    fun isReceiver => (evidence role).noWait isReceiver phase
  cases advanced with
  | action phase todo advanced =>
      cases actionStep_of_advanceAction advanced with
      | send advanced => exact (evidence_advanceSend (evidence role) phase todo advanced).append _
      | receive advanced =>
          exact (evidence_advanceReceive (evidence role) phase todo advanced).append _
      | decided how => exact evidence_decided sized synchronous evidence phase todo how
  | cleanup errors phase => exact evidence_cleanup synchronous (evidence role) phase errors
  | close phase =>
      refine ((evidence role).moves (.inl phase) _ ?_ ?_ ?_ ?_).append _
      · cases role <;> simp [World.afterClose]
      · rintro rfl
        simp [World.afterClose]
      · rintro rfl code isExited
        exact (Phase.exited.inj isExited).symm
      · rintro rfl
        simp [World.afterClose]
  | interrupted phase => exact (evidence role).append _
  | waitFails phase =>
      exact ((evidence role).moves (.inr phase) (.exited 1) (by simp) (by simp)
        (fun isReceiver => absurd isReceiver (notReceiver phase)) (by simp)).append _
  | @waited code phase ended =>
      refine ((evidence role).moves (.inr phase) (.exited code) (by simp) (by simp)
        (fun isReceiver => absurd isReceiver (notReceiver phase)) ?_).append _
      rintro rfl isZero
      rw [Phase.exited.inj isZero] at ended
      obtain ⟨success, child⟩ := exitCode_zero ended
      exact ⟨success, receiver_passed synchronous (evidence .receiver) child⟩

/-- A step adds evidence for its own process and keeps the one of the other. -/
theorem evidence_step (sized : ∀ role, (setting.metadata role).length = metadataSize)
    (synchronous : Synchronous setting world)
    (evidence : ∀ role, Evidence world.log role (world.endpoint role)) {move : Move}
    {after : World} (taken : world.step setting role move = some after) (self : Role) :
    Evidence after.log self (after.endpoint self) := by
  obtain ⟨e', chunk, endpoint, endpoint', -, -, log, how⟩ := step_cases taken
  rw [log]
  rcases self.eq_or_eq_other role with rfl | rfl
  · rw [endpoint]
    rcases how with ⟨-, rfl, -, -⟩ | advanced
    · exact (evidence self).killed.append _
    · exact evidence_advanced sized synchronous evidence advanced
  · rw [endpoint']
    exact (evidence role.other).append _

end Run

/-! ### No false PASS

The parent exits with 0 only when its own part and the exit status of the child say so, and then
the evidence of both endpoints is complete. -/

section Reachable

variable {setting : Setting} {world : World}

theorem synchronous_of_reachable (sized : ∀ role, (setting.metadata role).length = metadataSize)
    (reached : (checkSystem setting).Reachable (fun _ _ => True) world) :
    Synchronous setting world := by
  apply reached.invariant
  · rintro _ rfl role
    exact progress_start sized
  · intro before label after synchronous _ taken
    exact synchronous_step sized synchronous taken

/-- The log shows what both endpoints rely on. -/
def Evident (world : World) : Prop := ∀ role, Evidence world.log role (world.endpoint role)

theorem evidence_start (role : Role) (actions : List Action) :
    Evidence [] role { todo := actions } where
  resources created := by cases created
  polled _ written := by cases written
  verified _ verified := by cases verified
  trying _ := rfl
  complete _ notTrying := absurd rfl notTrying
  released _ notTrying := absurd rfl notTrying
  noWait _ phase := by cases phase
  exited _ _ phase := by cases phase
  passed _ phase := by cases phase

theorem evidence_of_reachable (sized : ∀ role, (setting.metadata role).length = metadataSize)
    (reached : (checkSystem setting).Reachable (fun _ _ => True) world) :
    Evident world := by
  apply reached.invariant_with (fun _ => synchronous_of_reachable sized)
  · rintro _ rfl role
    exact evidence_start role _
  · intro before label after synchronous _ evidence _ taken
    exact evidence_step sized synchronous evidence taken

/-- However the bytes are split, whatever is interrupted and whatever fails: an endpoint obtains
the messages of its peer, in order; the two never wait for each other; and an exit code of 0 shows
that the WRITE was polled, that the buffer was checked after it and that both endpoints have
released their resources. -/
theorem environment_check_sound
    (sized : ∀ role, (setting.metadata role).length = metadataSize)
    (buffers : metadataSize ≤ setting.capacity)
    (reached : (checkSystem setting).Reachable (fun _ _ => True) world) :
    (∀ role, (world.endpoint role).received <+: messages setting role.other) ∧
      ¬(world.waiting setting .sender = true ∧ world.waiting setting .receiver = true) ∧
      ((world.endpoint .sender).phase = .exited 0 →
        VerifiedAfter world.log ∧ ∀ role, Released role world.log) := by
  have synchronous := synchronous_of_reachable sized reached
  have evidence := evidence_of_reachable sized reached
  refine ⟨received_begins sized synchronous,
    never_both_waiting synchronous sized buffers ((evidence .receiver).noWait rfl), ?_⟩
  intro passed
  obtain ⟨success, verified, receiver⟩ := (evidence .sender).passed rfl passed
  refine ⟨verified, fun role => ?_⟩
  cases role with
  | sender =>
      have left (other : Phase) (differ : .exited 0 ≠ other) :
          (world.endpoint .sender).phase ≠ other := phase_ne passed differ
      exact (evidence .sender).released success (left _ (by decide)) (left _ (by decide))
        (left _ (by decide))
  | receiver => exact receiver

end Reachable

def sampleSetting : Setting where
  deviceName := "mlx5_0"
  gidIndex := 3
  metadata _ := List.replicate 40 7
  capacity := 64

def sampleAnswers : DeviceAnswers where
  devices := some ["mlx5_0"]
  opened := true
  queryPort := 0
  portActive := true
  gidTableLength := 4
  queryGid := 0
  gidIsZero := false
  allocPd := true
  regMr := true
  createCq := true
  createQp := true

/-- A passing run, with split transfers and an interrupted call. -/
def sampleRun : List (Role × Move) :=
  [(.sender, .setsockopt true), (.receiver, .setsockopt true),
    (.sender, .createResources sampleAnswers), (.receiver, .createResources sampleAnswers),
    (.sender, .transferred 25), (.receiver, .transferred 40), (.sender, .interrupted),
    (.sender, .transferred 15), (.receiver, .transferred 30), (.receiver, .transferred 10),
    (.sender, .transferred 40), (.sender, .connectQp 0 0 0), (.receiver, .connectQp 0 0 0),
    (.sender, .transferred 1), (.receiver, .transferred 1), (.sender, .transferred 1),
    (.receiver, .transferred 1),
    (.sender, .writeAndWait 0 [⟨0, false, 0, false, false⟩, ⟨1, true, 1, true, false⟩]),
    (.sender, .transferred 1), (.receiver, .transferred 1), (.receiver, .verify expectedByte),
    (.receiver, .transferred 1), (.sender, .transferred 1), (.sender, .cleanup {}),
    (.receiver, .cleanup {}), (.sender, .close), (.receiver, .close), (.sender, .waited)]

theorem environment_check_sound_sample : ∃ world,
    (checkSystem sampleSetting).Reachable (fun _ _ => True) world ∧
    (world.endpoint .sender).phase = .exited 0 ∧ VerifiedAfter world.log ∧
    ∀ role, Released role world.log := by
  have computed : ∃ world, (checkSystem sampleSetting).Reachable (fun _ _ => True) world ∧
      (world.endpoint .sender).phase = .exited 0 :=
    LabelledSystem.exists_reachable (.initial rfl) sampleRun (by decide +kernel)
  obtain ⟨world, reached, passed⟩ := computed
  exact ⟨world, reached, passed,
    (environment_check_sound (fun _ => rfl) (by decide) reached).2.2 passed⟩

end Rdma101.RdmaCheck
