/-
Module: Rdma101.RdmaCheck.Completeness
Purpose: The environment check always comes to its end, and its verdict is exact: it passes if and
  only if every answer of its surroundings was good.
Trusted boundary: none
Main exports: Move.goesWell, World.progress, environment_check_ends, environment_check_exact
-/
import Rdma101.RdmaCheck.Soundness
import Mathlib.Tactic.IntervalCases

namespace Rdma101.RdmaCheck

/-! ### Good answers

An answer is what the surroundings decide in one step: the result of a system call or of a verb,
the buffer, a signal.  How many bytes a call transfers is never a bad answer. -/

/-- The surroundings answer well. The end of a stream is the peer's doing. -/
def Move.goesWell (setting : Setting) : Move → Bool
  | .setsockopt ok => ok
  | .createResources answers =>
      (RdmaCheck.createResources setting.deviceName setting.gidIndex answers).2
  | .connectQp toInit toRtr toRts => RdmaCheck.connectQp toInit toRtr toRts
  | .writeAndWait posted polls => RdmaCheck.writeAndWait posted polls = some true
  | .verify buffer => RdmaCheck.verify buffer
  | .cleanup errors => errors = {}
  | .ioFails | .waitFails | .killed => false
  | .transferred _ | .interrupted | .endOfStream | .close | .waited => true

def Move.isInterruption : Move → Bool
  | .interrupted => true
  | _ => false

/-- All answers that a process has had were good. -/
def WentWell (setting : Setting) (role : Role) (log : List (Role × Move)) : Prop :=
  ∀ move, (role, move) ∈ log → move.goesWell setting = true

/-- Nothing has gone wrong in a process. -/
structure Endpoint.Unharmed (e : Endpoint) : Prop where
  success : e.failed = false
  notKilled : e.phase ≠ .killed
  exited : ∀ code, e.phase = .exited code → code = 0

/-! ### How far a process has come

The progress of a process is a number that every step but an interruption raises by what it has
brought about: bytes, finished actions, later phases. -/

def Phase.rank : Phase → Nat
  | .trying => 0
  | .cleanup => 1
  | .close => 2
  | .wait => 3
  | .exited _ | .killed => 4

/-- The bytes sent and received, the finished actions and the phase. -/
def Endpoint.progress (e : Endpoint) (own : Bytes) : Nat :=
  own.length + e.consumed.length + e.done.length + e.phase.rank

def World.progress (world : World) (role : Role) : Nat :=
  (world.endpoint role).progress (world.sent role)

section Endpoints

variable {e : Endpoint} {action : Action} {rest : List Action}

/-- A later phase. -/
theorem Endpoint.progress_phase (e : Endpoint) (own : Bytes) {phase : Phase} {failed : Bool}
    (later : e.phase.rank + 1 ≤ phase.rank) :
    e.progress own + 1 ≤ Endpoint.progress { e with phase := phase, failed := failed } own := by
  have consumed : Endpoint.consumed { e with phase := phase, failed := failed } = e.consumed := rfl
  rw [progress, progress, consumed]
  dsimp only
  omega

/-- An exception is progress, too: it leaves the `try` block. -/
theorem Endpoint.progress_throw (phase : e.phase = .trying) (own : Bytes) :
    e.progress own + 1 ≤ e.throw.progress own :=
  e.progress_phase own (by rw [phase]; decide)

/-- What has been transferred and finished counts in every phase. -/
theorem Endpoint.counted_le (e : Endpoint) (own : Bytes) :
    own.length + (e.consumed.length + e.done.length) ≤ e.progress own := by
  rw [progress]
  omega

theorem Endpoint.counted_le_throw (e : Endpoint) (own : Bytes) :
    own.length + (e.consumed.length + e.done.length) ≤ e.throw.progress own :=
  e.throw.counted_le own

/-- The end of an action, with what has been received then. -/
theorem Endpoint.counted_complete (todo : e.todo = action :: rest) (received : List Bytes) :
    (Endpoint.consumed { e.complete with received := received }).length +
      e.complete.done.length = received.flatten.length + (e.done.length + 1) := by
  have receiving : Endpoint.receiving { e.complete with received := received } = [] := by
    rw [Endpoint.complete, todo]
    unfold Endpoint.receiving
    split <;> rfl
  have done : e.complete.done = e.done ++ [action] := by rw [Endpoint.complete, todo]
  rw [Endpoint.consumed, receiving, List.append_nil, done, List.length_append,
    List.length_singleton]

theorem Endpoint.progress_complete (todo : e.todo = action :: rest) (own : Bytes) :
    own.length + (e.received.flatten.length + (e.done.length + 1)) ≤ e.complete.progress own := by
  rw [← e.received_complete, ← Endpoint.counted_complete todo]
  exact e.complete.counted_le own

end Endpoints

section Steps

variable {setting : Setting} {world after : World} {role : Role} {move : Move}

/-- What a step adds to the progress of its process. -/
def Move.weight (move : Move) : Nat := if move.isInterruption then 0 else 1

/-- A step of a send adds bytes to the stream, finishes the action or throws. -/
theorem onward_send (phase : (world.endpoint role).phase = .trying) {data : Bytes}
    {rest : List Action} (todo : (world.endpoint role).todo = .send data :: rest)
    {e' : Endpoint} {chunk : Bytes}
    (advanced : world.advanceSend setting role data move = some (e', chunk)) :
    world.progress role + move.weight ≤ e'.progress (world.sent role ++ chunk) := by
  have receiving : (world.endpoint role).receiving = [] := by rw [Endpoint.receiving, todo]
  have before : world.progress role = (world.sent role).length +
      (world.endpoint role).received.flatten.length + (world.endpoint role).done.length := by
    rw [World.progress, Endpoint.progress, Endpoint.consumed, receiving, List.append_nil, phase]
    rfl
  cases move with
  | transferred count =>
      simp only [World.advanceSend] at advanced
      split at advanced
      · rename_i fits
        obtain ⟨positive, below, -, -⟩ := fits
        obtain ⟨rfl, rfl⟩ := Prod.mk.inj (Option.some.inj advanced)
        have length := List.length_take_of_le below
        have weight : (Move.transferred count).weight = 1 := rfl
        split
        · have complete := Endpoint.progress_complete todo
            (world.sent role ++ (data.drop (world.endpoint role).pending.length).take count)
          rw [List.length_append, length] at complete
          omega
        · rw [before, weight, Endpoint.progress, List.length_append, length]
          simp only [Endpoint.consumed, Endpoint.receiving, todo, List.append_nil]
          omega
      · cases advanced
  | interrupted =>
      obtain ⟨rfl, rfl⟩ := Prod.mk.inj (Option.some.inj advanced)
      rw [List.append_nil]
      exact Nat.le_refl _
  | ioFails =>
      obtain ⟨rfl, rfl⟩ := Prod.mk.inj (Option.some.inj advanced)
      rw [List.append_nil]
      exact Endpoint.progress_throw phase _
  | _ => cases advanced

/-- A step of a receive takes bytes, finishes the action or throws. -/
theorem onward_receive (phase : (world.endpoint role).phase = .trying) {size : Nat}
    {expected : Option UInt8} {rest : List Action}
    (todo : (world.endpoint role).todo = .receive size expected :: rest) {e' : Endpoint}
    {chunk : Bytes} (advanced : world.advanceReceive role size expected move = some (e', chunk)) :
    world.progress role + move.weight ≤ e'.progress (world.sent role ++ chunk) := by
  have before : world.progress role = (world.sent role).length +
      ((world.endpoint role).received.flatten.length + (world.endpoint role).pending.length) +
        (world.endpoint role).done.length := by
    rw [World.progress, Endpoint.progress, Endpoint.consumed, Endpoint.receiving, todo, phase,
      List.length_append]
    rfl
  cases move with
  | transferred count =>
      simp only [World.advanceReceive] at advanced
      have weight : (Move.transferred count).weight = 1 := rfl
      split at advanced
      · rename_i fits
        obtain ⟨positive, below, available⟩ := fits
        have length : ((world.endpoint role).pending ++ (world.unread role).take count).length =
            (world.endpoint role).pending.length + count := by
          rw [List.length_append, List.length_take_of_le available]
        split at advanced
        · have counted := Endpoint.counted_complete todo ((world.endpoint role).received ++
            [(world.endpoint role).pending ++ (world.unread role).take count])
          rw [List.flatten_append, List.flatten_singleton, List.length_append, length] at counted
          have enough : world.progress role + (Move.transferred count).weight ≤
              (world.sent role).length + ((world.endpoint role).received.flatten.length +
                ((world.endpoint role).pending.length + count) +
                  ((world.endpoint role).done.length + 1)) := by
            omega
          rw [← counted] at enough
          obtain ⟨rfl, rfl⟩ := Prod.mk.inj (Option.some.inj advanced)
          rw [List.append_nil]
          split
          · exact Nat.le_trans enough (Endpoint.counted_le _ _)
          · exact Nat.le_trans enough (Endpoint.counted_le_throw _ _)
        · obtain ⟨rfl, rfl⟩ := Prod.mk.inj (Option.some.inj advanced)
          rw [List.append_nil, before, weight, Endpoint.progress]
          simp only [Endpoint.consumed, Endpoint.receiving, todo, List.length_append] at length ⊢
          omega
      · cases advanced
  | interrupted =>
      obtain ⟨rfl, rfl⟩ := Prod.mk.inj (Option.some.inj advanced)
      rw [List.append_nil]
      exact Nat.le_refl _
  | ioFails =>
      obtain ⟨rfl, rfl⟩ := Prod.mk.inj (Option.some.inj advanced)
      rw [List.append_nil]
      exact Endpoint.progress_throw phase _
  | endOfStream =>
      simp only [World.advanceReceive] at advanced
      split at advanced
      · obtain ⟨rfl, rfl⟩ := Prod.mk.inj (Option.some.inj advanced)
        rw [List.append_nil]
        exact Endpoint.progress_throw phase _
      · cases advanced
  | _ => cases advanced

/-- Every step brings its process forward, unless it is an interruption. -/
theorem onward_advanced {e' : Endpoint} {chunk : Bytes}
    (advanced : Advanced setting world role move e' chunk) :
    world.progress role + move.weight ≤ e'.progress (world.sent role ++ chunk) := by
  have weight : move.weight ≤ 1 := by
    unfold Move.weight
    split <;> decide
  cases advanced with
  | action phase todo advanced =>
      cases actionStep_of_advanceAction advanced with
      | send advanced => exact onward_send phase todo advanced
      | receive advanced => exact onward_receive phase todo advanced
      | @decided action _ resources ok how =>
          rw [List.append_nil]
          apply Nat.le_trans (Nat.add_le_add_left weight _)
          have receiving : (world.endpoint role).receiving = [] := by
            rw [Endpoint.receiving, todo]
            cases how <;> rfl
          have before : world.progress role = (world.sent role).length +
              (world.endpoint role).received.flatten.length +
                (world.endpoint role).done.length := by
            rw [World.progress, Endpoint.progress, Endpoint.consumed, receiving, List.append_nil,
              phase]
            rfl
          cases ok with
          | true =>
              rw [before, Nat.add_assoc, Nat.add_assoc]
              show _ ≤ Endpoint.progress (Endpoint.complete
                { world.endpoint role with resources := resources }) _
              exact @Endpoint.progress_complete { world.endpoint role with resources := resources }
                _ _ todo (world.sent role)
          | false => exact Endpoint.progress_throw phase _
  | cleanup errors phase =>
      rw [List.append_nil]
      apply Nat.le_trans (Nat.add_le_add_left weight _)
      exact Endpoint.progress_phase _ _ (by rw [phase]; decide)
  | close phase =>
      rw [List.append_nil]
      refine Nat.le_trans (Nat.add_le_add_left weight _) (Endpoint.progress_phase _ _ ?_)
      rw [phase]
      cases role <;> simp [World.afterClose, Phase.rank]
  | interrupted phase =>
      rw [List.append_nil]
      exact Nat.le_refl _
  | waitFails phase | waited phase =>
      rw [List.append_nil]
      refine Nat.le_trans (Nat.add_le_add_left weight _) (Endpoint.progress_phase _ _ ?_)
      rw [phase]
      exact Nat.le_refl 4

end Steps

/-! ### Every run ends

The progress of each process is bounded, since scripts and messages are finite; together the
bounds make 196. -/

/-- The steps that were not interruptions. -/
def completedSteps (log : List (Role × Move)) : Nat := (log.map fun entry => entry.2.weight).sum

section Ends

variable {setting : Setting} {world : World}

/-- Scripts and messages are finite. -/
theorem progress_le (sized : ∀ role, (setting.metadata role).length = metadataSize)
    (synchronous : Synchronous setting world) (role : Role) : world.progress role ≤ 98 := by
  have messages (self : Role) : (messages setting self).flatten.length = 42 := by
    cases self <;> simp [RdmaCheck.messages, sized, metadataSize]
  have own := (synchronous role).own_begins.length_le
  have consumed := (synchronous role).peer.length_le
  have peer := (synchronous role.other).own_begins.length_le
  have done : (world.endpoint role).done.length ≤ 10 := by
    have splits := congrArg List.length (synchronous role).splits
    have ten : (script role (setting.metadata role)).length = 10 := by cases role <;> rfl
    rw [List.length_append, ten] at splits
    omega
  have rank : (world.endpoint role).phase.rank ≤ 4 := by
    cases (world.endpoint role).phase <;> simp [Phase.rank]
  rw [messages] at own peer
  rw [World.progress, Endpoint.progress]
  omega

/-- Every step but an interruption has brought one of the processes forward. -/
def Counted (world : World) : Prop :=
  completedSteps world.log ≤ world.progress .sender + world.progress .receiver

/-- A process that is killed, or goes on. -/
theorem progress_step {after : World} {role : Role} {move : Move}
    (taken : world.step setting role move = some after) :
    world.progress role + move.weight ≤ after.progress role := by
  obtain ⟨e', chunk, endpoint, -, sent, -, -, how⟩ := step_cases taken
  rw [World.progress, World.progress, endpoint, sent]
  rcases how with ⟨rfl, rfl, rfl, live⟩ | advanced
  · rw [List.append_nil]
    apply Endpoint.progress_phase _ _
    rw [World.isLive] at live
    cases phase : (world.endpoint role).phase with
    | killed | exited => simp [phase] at live
    | _ => simp [Phase.rank]
  · exact onward_advanced advanced

/-- A step is counted at the process that takes it, and the other one does not go back. -/
theorem counted_step {after : World} {role : Role} {move : Move} (counted : Counted world)
    (taken : world.step setting role move = some after) : Counted after := by
  obtain ⟨_, _, -, endpoint', -, sent', log, -⟩ := step_cases taken
  have self := progress_step taken
  have other : after.progress role.other = world.progress role.other := by
    rw [World.progress, World.progress, endpoint', sent']
  have total : completedSteps after.log = completedSteps world.log + move.weight := by
    rw [log, completedSteps, completedSteps, List.map_append, List.sum_append]
    rfl
  unfold Counted at *
  cases role <;> simp only [Role.other] at other <;> omega

theorem counted_of_reachable
    (reached : (checkSystem setting).Reachable (fun _ _ => True) world) : Counted world := by
  apply reached.invariant
  · rintro _ rfl
    exact Nat.zero_le _
  · intro before label after counted _ taken
    exact counted_step counted taken

end Ends

/-! ### A process that does not wait can go on

A process that lives has a next step for some answer.  If it waits, its peer lives and does not
wait, because the two never wait for each other. -/

/-- An endpoint stays in its `try` block only while there is something to do. -/
def Endpoint.Engaged (e : Endpoint) : Prop := e.phase = .trying → e.todo ≠ []

/-- The surroundings can take this step: they answer well, or a send fails since the peer has closed
its end. -/
def World.Expects (setting : Setting) (world : World) (role : Role) (move : Move) : Prop :=
  move.isInterruption = false ∧
    (move.goesWell setting = true ∨
      move = .ioFails ∧ (world.endpoint role.other).isOpen = false ∧
        ∃ data rest, (world.endpoint role).todo = .send data :: rest)

/-- A device on which all resources can be created. -/
def goodAnswers (setting : Setting) : DeviceAnswers where
  devices := some [setting.deviceName]
  opened := true
  queryPort := 0
  portActive := true
  gidTableLength := setting.gidIndex + 1
  queryGid := 0
  gidIsZero := false
  allocPd := true
  regMr := true
  createCq := true
  createQp := true

section Enabled

variable {setting : Setting} {world : World} {role : Role}

/-- A device can answer well. -/
theorem goodAnswers_goWell (setting : Setting) :
    (Move.createResources (goodAnswers setting)).goesWell setting = true := by
  have inside : ¬setting.gidIndex + 1 ≤ setting.gidIndex := Nat.not_succ_le_self _
  simp [Move.goesWell, RdmaCheck.createResources, goodAnswers, check, inside]

/-- The buffer can be right. -/
theorem verify_expectedByte : verify expectedByte = true := by
  rw [verify, List.all_eq_true]
  exact fun index _ => decide_eq_true rfl

/-- Every action has a good answer, or the pipe is broken. -/
theorem expects_of_action {action : Action} {rest : List Action}
    (phase : (world.endpoint role).phase = .trying)
    (todo : (world.endpoint role).todo = action :: rest)
    (partly : action.Partial (world.endpoint role).pending)
    (goesOn : world.waiting setting role = false) :
    ∃ move, world.Expects setting role move ∧ move ≠ .killed ∧
      (world.advanceAction setting role action move).isSome = true := by
  cases action with
  | socketTimeouts => exact ⟨.setsockopt true, ⟨rfl, .inl rfl⟩, by simp, rfl⟩
  | createResources =>
      exact ⟨.createResources (goodAnswers setting), ⟨rfl, .inl (goodAnswers_goWell setting)⟩,
        by simp, rfl⟩
  | connectQp => exact ⟨.connectQp 0 0 0, ⟨rfl, .inl rfl⟩, by simp, rfl⟩
  | writeAndWait =>
      exact ⟨.writeAndWait 0 [⟨1, true, 1, true, false⟩], ⟨rfl, .inl rfl⟩, by simp, rfl⟩
  | verify => exact ⟨.verify expectedByte, ⟨rfl, .inl verify_expectedByte⟩, by simp, rfl⟩
  | send data =>
      by_cases isOpen : (world.endpoint role.other).isOpen = true
      · have room : (world.unread role.other).length < setting.capacity := by
          simpa [World.waiting, phase, todo, isOpen] using goesOn
        have left : 1 ≤ (data.drop (world.endpoint role).pending.length).length := by
          rw [List.length_drop]
          have shorter := partly.2
          omega
        refine ⟨.transferred 1, ⟨rfl, .inl rfl⟩, by simp, ?_⟩
        have fits : 0 < 1 ∧ 1 ≤ (data.drop (world.endpoint role).pending.length).length ∧
            (world.unread role.other).length + 1 ≤ setting.capacity ∧
              (world.endpoint role.other).isOpen = true := ⟨Nat.one_pos, left, room, isOpen⟩
        simp only [World.advanceAction, World.advanceSend, if_pos fits, Option.isSome_some]
      · exact ⟨.ioFails, ⟨rfl, .inr ⟨rfl, eq_false_of_ne_true isOpen, data, rest, todo⟩⟩, by simp,
          rfl⟩
  | receive size expected =>
      by_cases empty : world.unread role = []
      · have closed : (world.endpoint role.other).isOpen = false := by
          simpa [World.waiting, phase, todo, empty] using goesOn
        refine ⟨.endOfStream, ⟨rfl, .inl rfl⟩, by simp, ?_⟩
        simp only [World.advanceAction, World.advanceReceive, if_pos (And.intro empty closed),
          Option.isSome_some]
      · have left : 1 ≤ (world.unread role).length := List.length_pos_iff.mpr empty
        have shorter : (world.endpoint role).pending.length + 1 ≤ size := partly
        refine ⟨.transferred 1, ⟨rfl, .inl rfl⟩, by simp, ?_⟩
        have fits : 0 < 1 ∧ (world.endpoint role).pending.length + 1 ≤ size ∧
            1 ≤ (world.unread role).length := ⟨Nat.one_pos, shorter, left⟩
        simp only [World.advanceAction, World.advanceReceive, if_pos fits]
        split <;> rfl

/-- What a process can do is a step of the system. -/
theorem step_of_advance {move : Move} (notKilled : move ≠ .killed)
    (advances : (world.advance setting role move).isSome = true) :
    (world.step setting role move).isSome = true := by
  unfold World.step
  rw [Option.isSome_map]
  split
  · exact absurd rfl notKilled
  · exact advances

/-- A live process that does not wait has a step before it, whatever has failed. -/
theorem expects_of_not_waiting (synchronous : Synchronous setting world)
    (engaged : (world.endpoint role).Engaged) (live : world.isLive role = true)
    (goesOn : world.waiting setting role = false) :
    ∃ move, world.Expects setting role move ∧ (world.step setting role move).isSome = true := by
  cases phase : (world.endpoint role).phase with
  | trying =>
      obtain ⟨action, rest, todo⟩ := List.exists_cons_of_ne_nil (engaged phase)
      have partly := (synchronous role).underWay action (by rw [todo]; rfl)
      obtain ⟨move, expected, notKilled, advances⟩ := expects_of_action phase todo partly goesOn
      refine ⟨move, expected, step_of_advance notKilled ?_⟩
      simp only [World.advance, phase, todo]
      exact advances
  | cleanup =>
      refine ⟨.cleanup {}, ⟨rfl, .inl rfl⟩, step_of_advance (by simp) ?_⟩
      simp only [World.advance, phase, Option.isSome_some]
  | close =>
      refine ⟨.close, ⟨rfl, .inl rfl⟩, step_of_advance (by simp) ?_⟩
      simp only [World.advance, phase, Option.isSome_some]
  | wait =>
      have ended : world.isLive role.other = false := by
        simpa [World.waiting, phase] using goesOn
      refine ⟨.waited, ⟨rfl, .inl rfl⟩, step_of_advance (by simp) ?_⟩
      simp only [World.advance, phase, Option.isSome_map]
      rw [World.isLive] at ended
      cases childPhase : (world.endpoint role.other).phase with
      | killed | exited => rfl
      | _ => simp [childPhase] at ended
  | exited | killed => simp [World.isLive, phase] at live

theorem live_of_isOpen (isOpen : (world.endpoint role).isOpen = true) :
    world.isLive role = true := by
  rw [World.isLive]
  cases phase : (world.endpoint role).phase with
  | exited | killed | wait => simp [Endpoint.isOpen, phase] at isOpen
  | _ => rfl

/-- A process waits for a live one. -/
theorem live_of_waiting (waits : world.waiting setting role = true) :
    world.isLive role.other = true := by
  rcases waiting_cases waits with phase | ⟨isOpen, -⟩
  · simpa [World.waiting, phase] using waits
  · exact live_of_isOpen isOpen

/-- While a process lives, one of the two can go on. -/
theorem someone_goes_on (synchronous : Synchronous setting world)
    (sized : ∀ role, (setting.metadata role).length = metadataSize)
    (buffers : metadataSize ≤ setting.capacity)
    (noWait : (world.endpoint .receiver).phase ≠ .wait)
    (engaged : ∀ role, (world.endpoint role).Engaged) (live : world.isLive role = true) :
    ∃ role move, world.Expects setting role move ∧
      (world.step setting role move).isSome = true := by
  have notBoth := never_both_waiting synchronous sized buffers noWait
  by_cases waits : world.waiting setting role = true
  · have goesOn : world.waiting setting role.other = false := by
      cases role with
      | sender => exact eq_false_of_ne_true fun other => notBoth ⟨waits, other⟩
      | receiver => exact eq_false_of_ne_true fun other => notBoth ⟨other, waits⟩
    exact ⟨role.other, expects_of_not_waiting synchronous (engaged _) (live_of_waiting waits)
      goesOn⟩
  · exact ⟨role, expects_of_not_waiting synchronous (engaged _) live (eq_false_of_ne_true waits)⟩

end Enabled

/-! ### What a good answer leads to

Good answers alone cannot produce a failure: tokens are compared with bytes that the peer has
really sent, streams do not end early and pipes do not break while both sides follow their
scripts. -/

section Tokens

variable {setting : Setting} {role : Role}

/-- The tokens that are expected are the ones that the peer sends. -/
theorem script_accepts {position size : Nat} {expected : Option UInt8}
    (current : (script role (setting.metadata role))[position]? =
      some (.receive size expected)) :
    ∃ message, (messages setting role.other)[(((script role (setting.metadata role)).take
      position).filterMap Action.size?).length]? = some message ∧
        World.accepts expected message = true := by
  have below : position < 10 := by
    have inside := (List.getElem?_eq_some_iff.mp current).1
    cases role <;> exact inside
  cases role <;> interval_cases position <;> cases current <;> exact ⟨_, rfl, rfl⟩

/-- What an endpoint has received is what it expects. -/
theorem accepts_of_begins {e : Endpoint} {own peer : Bytes}
    (progress : Progress setting role e own peer) {size : Nat} {expected : Option UInt8}
    {rest : List Action} (todo : e.todo = .receive size expected :: rest) {message : Bytes}
    (begins : e.received ++ [message] <+: messages setting role.other) :
    World.accepts expected message = true := by
  obtain ⟨wanted, place, accepted⟩ := script_accepts (progress.current todo)
  have here : (messages setting role.other)[e.received.length]? = some message := by
    obtain ⟨later, whole⟩ := begins
    rw [← whole, List.append_assoc, List.getElem?_append_right (Nat.le_refl _), Nat.sub_self]
    rfl
  have count : e.received.length = (e.done.filterMap Action.size?).length := by
    rw [← progress.sizes, List.length_map]
  rw [← progress.done_eq, ← count, here] at place
  exact (Option.some.inj place) ▸ accepted

end Tokens

section Ended

variable {setting : Setting} {world : World} {role : Role}

/-- An endpoint that has closed its end without a failure has finished its script. -/
theorem done_of_closed (synchronous : Synchronous setting world)
    (evidence : Evidence world.log role (world.endpoint role))
    (unharmed : (world.endpoint role).Unharmed)
    (closed : (world.endpoint role).isOpen = false) :
    (world.endpoint role).done.length = 10 := by
  have notTrying : (world.endpoint role).phase ≠ .trying := by
    intro phase
    simp [Endpoint.isOpen, phase] at closed
  have finished := evidence.complete unharmed.success notTrying unharmed.notKilled
  have splits := congrArg List.length (synchronous role).splits
  have ten : (script role (setting.metadata role)).length = 10 := by cases role <;> rfl
  rwa [finished, List.append_nil, ten] at splits

/-- No process sends more than 42 bytes. -/
theorem sentBefore_le : ∀ role : Role, ∀ position < 10, sentBefore role (position + 1) ≤ 42 := by
  intro role
  cases role <;> decide

/-- And none receives more. -/
theorem takenBefore_le : ∀ role : Role, ∀ position < 10,
    takenBefore role (position + 1) ≤ 42 := by
  intro role
  cases role <;> decide

/-- The stream of a peer that has finished its script is not too short. -/
theorem no_early_end (sized : ∀ role, (setting.metadata role).length = metadataSize)
    (synchronous : Synchronous setting world)
    (evidence : Evidence world.log role.other (world.endpoint role.other))
    (unharmed : (world.endpoint role.other).Unharmed) {size : Nat} {expected : Option UInt8}
    {rest : List Action} (todo : (world.endpoint role).todo = .receive size expected :: rest)
    (empty : world.unread role = []) : (world.endpoint role.other).isOpen = true := by
  by_contra notOpen
  have finished := done_of_closed synchronous evidence unharmed (eq_false_of_ne_true notOpen)
  have starving := starving_of_receive synchronous sized todo empty
  have length := (synchronous role.other).length_own sized
  have all : sentBefore role.other 10 = 42 := by cases role <;> rfl
  have bound := takenBefore_le role _ starving.below
  have taken := starving.taken
  rw [starving.empty] at taken
  rw [finished, all] at length
  omega

/-- A peer that has finished its script has taken everything. -/
theorem no_broken_pipe (sized : ∀ role, (setting.metadata role).length = metadataSize)
    (synchronous : Synchronous setting world)
    (evidence : Evidence world.log role.other (world.endpoint role.other))
    (unharmed : (world.endpoint role.other).Unharmed) {data : Bytes} {rest : List Action}
    (todo : (world.endpoint role).todo = .send data :: rest) :
    (world.endpoint role.other).isOpen = true := by
  by_contra notOpen
  have finished := done_of_closed synchronous evidence unharmed (eq_false_of_ne_true notOpen)
  have progress := synchronous role
  have taken := (synchronous role.other).length_consumed
  have behind := (synchronous role.other).peer.length_le
  have all : takenBefore role.other 10 = 42 := by cases role <;> rfl
  have outSize : (outSizes role)[(world.endpoint role).done.length]? = some data.length := by
    rw [← outSizes_eq sized, List.getElem?_map, progress.current todo]
    rfl
  have below : (world.endpoint role).done.length < 10 := by
    have inside := (List.getElem?_eq_some_iff.mp outSize).1
    cases role <;> exact inside
  have length := progress.length_own sized
  have sending : (world.endpoint role).sending = (world.endpoint role).pending := by
    rw [Endpoint.sending, todo]
  have shorter := (progress.underWay (.send data) (by rw [todo]; rfl)).2
  have bound := sentBefore_le role _ below
  rw [sentBefore, sum_take_succ outSize, ← sentBefore] at bound
  rw [finished, all] at taken
  rw [Role.other_other] at behind
  rw [sending] at length
  omega

theorem unharmed_of_success {e : Endpoint} (success : e.failed = false)
    (notKilled : e.phase ≠ .killed) (notExited : ∀ code, e.phase ≠ .exited code) : e.Unharmed :=
  ⟨success, notKilled, fun code phase => absurd phase (notExited code)⟩

theorem Endpoint.Unharmed.of_complete {e : Endpoint} {received : List Bytes}
    (unharmed : Endpoint.Unharmed { e.complete with received := received })
    (phase : e.phase = .trying) : e.Unharmed := by
  have failed : e.complete.failed = e.failed := by
    unfold Endpoint.complete
    split <;> rfl
  refine unharmed_of_success ?_ (by simp [phase]) (by simp [phase])
  rw [← failed]
  exact unharmed.success

theorem Endpoint.phase_complete (e : Endpoint) (phase : e.phase = .trying) :
    e.complete.phase = .trying ∨ e.complete.phase = .cleanup := by
  unfold Endpoint.complete
  split
  · exact .inl phase
  · dsimp only
    split
    · exact .inr rfl
    · exact .inl phase

theorem Endpoint.Unharmed.complete {e : Endpoint} (unharmed : e.Unharmed)
    (phase : e.phase = .trying) (received : List Bytes) :
    Endpoint.Unharmed { e.complete with received := received } := by
  have failed : e.complete.failed = e.failed := by
    unfold Endpoint.complete
    split <;> rfl
  have phases := e.phase_complete phase
  refine unharmed_of_success (failed.trans unharmed.success) ?_ fun code => ?_ <;>
    rcases phases with phase | phase <;> simp [phase]

/-- An exception is harm. -/
theorem Endpoint.not_unharmed_throw (e : Endpoint) : ¬e.throw.Unharmed := by
  intro unharmed
  cases unharmed.success

/-- An action succeeds exactly when its answer is good. -/
theorem Decided.goesWell {held resources : Resources} {action : Action} {move : Move} {ok : Bool}
    (how : Decided setting held action move resources ok) : move.goesWell setting = ok := by
  cases how with
  | writeAndWait ended =>
      rw [Move.goesWell, ended]
      cases ok <;> rfl
  | _ => rfl

end Ended

/-! ### The verdict

By cases on the step: an unharmed process stays unharmed by a good answer, and a bad one makes
its process fail and keeps it from exiting with 0. -/

section Verdict

variable {setting : Setting} {world after : World} {role : Role} {move : Move} {e' : Endpoint}
  {chunk : Bytes}

theorem engaged_complete {e : Endpoint} (phase : e.phase = .trying) {action : Action}
    {rest : List Action} (todo : e.todo = action :: rest) (received : List Bytes) :
    Endpoint.Engaged { e.complete with received := received } := by
  rw [Endpoint.complete, todo, phase]
  intro trying empty
  dsimp only at trying empty
  rw [if_pos empty] at trying
  cases trying

theorem engaged_throw (e : Endpoint) : e.throw.Engaged := by
  intro phase
  cases phase

/-- How a step of an action can end, when the tokens are right. -/
inductive ActionEnd (setting : Setting) (world : World) (role : Role) :
    Move → Endpoint → Prop where
  | goesOn {move : Move} (pending : Bytes) (well : move.goesWell setting = true) :
      ActionEnd setting world role move { world.endpoint role with pending := pending }
  | completes {move : Move} (resources : Resources) (received : List Bytes)
      (well : move.goesWell setting = true) :
      ActionEnd setting world role move
        { Endpoint.complete { world.endpoint role with resources := resources } with
          received := received }
  | fails {move : Move} (e : Endpoint) (ill : move.goesWell setting = false) :
      ActionEnd setting world role move e.throw
  | starves {size : Nat} {expected : Option UInt8} {rest : List Action}
      (todo : (world.endpoint role).todo = .receive size expected :: rest)
      (empty : world.unread role = []) (closed : (world.endpoint role.other).isOpen = false) :
      ActionEnd setting world role .endOfStream (world.endpoint role).throw

theorem actionEnd_of_send {data : Bytes}
    (advanced : world.advanceSend setting role data move = some (e', chunk)) :
    ActionEnd setting world role move e' := by
  cases move with
  | transferred count =>
      simp only [World.advanceSend] at advanced
      split at advanced
      · obtain ⟨rfl, rfl⟩ := Prod.mk.inj (Option.some.inj advanced)
        split
        · exact .completes (world.endpoint role).resources _ rfl
        · exact .goesOn _ rfl
      · cases advanced
  | interrupted =>
      obtain ⟨rfl, rfl⟩ := Prod.mk.inj (Option.some.inj advanced)
      exact .goesOn (world.endpoint role).pending rfl
  | ioFails =>
      obtain ⟨rfl, rfl⟩ := Prod.mk.inj (Option.some.inj advanced)
      exact .fails _ rfl
  | _ => cases advanced

theorem actionEnd_of_receive (synchronous : Synchronous setting world) {size : Nat}
    {expected : Option UInt8} {rest : List Action}
    (todo : (world.endpoint role).todo = .receive size expected :: rest)
    (begins : e'.received <+: messages setting role.other)
    (advanced : world.advanceReceive role size expected move = some (e', chunk)) :
    ActionEnd setting world role move e' := by
  cases move with
  | transferred count =>
      simp only [World.advanceReceive] at advanced
      split at advanced
      · split at advanced
        · obtain ⟨rfl, rfl⟩ := Prod.mk.inj (Option.some.inj advanced)
          split
          · exact .completes (world.endpoint role).resources _ rfl
          · rename_i refused
            rw [if_neg refused] at begins
            exact absurd (accepts_of_begins (synchronous role) todo begins) refused
        · obtain ⟨rfl, rfl⟩ := Prod.mk.inj (Option.some.inj advanced)
          exact .goesOn _ rfl
      · cases advanced
  | interrupted =>
      obtain ⟨rfl, rfl⟩ := Prod.mk.inj (Option.some.inj advanced)
      exact .goesOn (world.endpoint role).pending rfl
  | ioFails =>
      obtain ⟨rfl, rfl⟩ := Prod.mk.inj (Option.some.inj advanced)
      exact .fails _ rfl
  | endOfStream =>
      simp only [World.advanceReceive] at advanced
      split at advanced
      · rename_i ended
        obtain ⟨rfl, rfl⟩ := Prod.mk.inj (Option.some.inj advanced)
        exact .starves todo ended.1 ended.2
      · cases advanced
  | _ => cases advanced

theorem actionEnd_of_advanceAction (synchronous : Synchronous setting world) {action : Action}
    {rest : List Action} (todo : (world.endpoint role).todo = action :: rest)
    (begins : e'.received <+: messages setting role.other)
    (advanced : world.advanceAction setting role action move = some (e', chunk)) :
    ActionEnd setting world role move e' := by
  cases actionStep_of_advanceAction advanced with
  | send advanced => exact actionEnd_of_send advanced
  | receive advanced => exact actionEnd_of_receive synchronous todo begins advanced
  | @decided _ _ resources ok how =>
      cases ok with
      | true => exact .completes resources _ how.goesWell
      | false => exact .fails _ how.goesWell

/-- An endpoint that goes on has something left to do. -/
theorem engaged_advanced (synchronous : Synchronous setting world)
    (engaged : (world.endpoint role).Engaged)
    (begins : e'.received <+: messages setting role.other)
    (advanced : Advanced setting world role move e' chunk) : e'.Engaged := by
  cases advanced with
  | action phase todo advanced =>
      cases actionEnd_of_advanceAction synchronous todo begins advanced with
      | goesOn => exact engaged
      | completes resources received =>
          exact @engaged_complete { world.endpoint role with resources := resources } phase _ _ todo
            received
      | fails | starves => exact engaged_throw _
  | cleanup | waitFails | waited =>
      intro trying
      cases trying
  | close =>
      intro trying
      cases role <;> cases trying
  | interrupted => exact engaged

/-- What goes well after a step has gone well before it, and the step did. -/
theorem blame_advanced (synchronous : Synchronous setting world)
    (evidence : Evidence world.log role (world.endpoint role))
    (begins : e'.received <+: messages setting role.other)
    (advanced : Advanced setting world role move e' chunk) (unharmed : e'.Unharmed) :
    (world.endpoint role).Unharmed ∧ move.goesWell setting = true := by
  cases advanced with
  | action phase todo advanced =>
      cases actionEnd_of_advanceAction synchronous todo begins advanced with
      | goesOn pending well =>
          exact ⟨⟨unharmed.success, unharmed.notKilled, unharmed.exited⟩, well⟩
      | completes resources received well =>
          have before := unharmed.of_complete phase
          exact ⟨⟨before.success, before.notKilled, before.exited⟩, well⟩
      | fails | starves => exact absurd unharmed (Endpoint.not_unharmed_throw _)
  | cleanup errors phase =>
      obtain ⟨success, clean⟩ := Bool.or_eq_false_iff.mp unharmed.success
      have finished := evidence.complete success (by simp [phase]) (by simp [phase])
      have created : .createResources ∈ (world.endpoint role).done := by
        have splits := (synchronous role).splits
        rw [finished, List.append_nil] at splits
        rw [splits]
        cases role <;> simp [script]
      rw [evidence.resources created] at clean
      refine ⟨unharmed_of_success success (by simp [phase]) (by simp [phase]), ?_⟩
      exact decide_eq_true (cleanup_ok clean)
  | close phase =>
      exact ⟨unharmed_of_success unharmed.success (by simp [phase]) (by simp [phase]), rfl⟩
  | interrupted => exact ⟨unharmed, rfl⟩
  | waitFails => exact absurd (unharmed.exited 1 rfl) Nat.one_ne_zero
  | waited phase =>
      exact ⟨unharmed_of_success unharmed.success (by simp [phase]) (by simp [phase]), rfl⟩

/-- The parent passes if its own part and the child's have passed. -/
theorem exitCode_eq_zero {failed : Bool} {phase : Phase} {code : Nat}
    (ended : World.exitCode failed phase = some code) :
    code = 0 ↔ failed = false ∧ phase = .exited 0 := by
  cases phase with
  | exited childCode =>
      obtain rfl := Option.some.inj ended
      by_cases passed : childCode = 0
      · subst passed
        cases failed <;> simp
      · simp [passed]
  | killed =>
      obtain rfl := Option.some.inj ended
      simp
  | _ => cases ended

theorem cleanup_nothing (r : Resources) : cleanup r {} = false := by
  cases r
  simp [cleanup]

/-- While the peer is unharmed, a good answer does no harm. -/
theorem unharmed_advanced (sized : ∀ role, (setting.metadata role).length = metadataSize)
    (synchronous : Synchronous setting world)
    (evidence : ∀ role, Evidence world.log role (world.endpoint role))
    (begins : e'.received <+: messages setting role.other)
    (advanced : Advanced setting world role move e' chunk)
    (unharmed : ∀ role, (world.endpoint role).Unharmed) (well : move.goesWell setting = true) :
    e'.Unharmed := by
  have success := (unharmed role).success
  cases advanced with
  | action phase todo advanced =>
      cases actionEnd_of_advanceAction synchronous todo begins advanced with
      | goesOn pending =>
          exact ⟨success, (unharmed role).notKilled, (unharmed role).exited⟩
      | completes resources received =>
          have same : Endpoint.Unharmed { world.endpoint role with resources := resources } :=
            ⟨success, (unharmed role).notKilled, (unharmed role).exited⟩
          exact same.complete phase received
      | fails e ill => exact absurd (ill.symm.trans well) Bool.false_ne_true
      | starves todo empty closed =>
          have isOpen := no_early_end sized synchronous (evidence _) (unharmed _) todo empty
          exact absurd (closed.symm.trans isOpen) Bool.false_ne_true
  | cleanup errors phase =>
      have clean : errors = {} := of_decide_eq_true well
      refine unharmed_of_success ?_ (by simp) (by simp)
      rw [success, clean]
      exact cleanup_nothing _
  | close phase =>
      refine ⟨success, ?_, fun code isExited => ?_⟩
      · cases role <;> simp [World.afterClose]
      · cases role with
        | sender => cases isExited
        | receiver =>
            cases isExited
            rw [success]
            rfl
  | interrupted => exact unharmed role
  | waitFails => cases well
  | @waited code phase ended =>
      refine ⟨success, by simp, fun code' isExited => ?_⟩
      cases isExited
      refine (exitCode_eq_zero ended).mpr ⟨success, ?_⟩
      have isSender : role = .sender := by
        cases role with
        | sender => rfl
        | receiver => exact absurd phase ((evidence .receiver).noWait rfl)
      subst isSender
      have child := unharmed .receiver
      rw [Role.other] at ended ⊢
      cases childPhase : (world.endpoint .receiver).phase with
      | exited code => rw [child.exited code childPhase]
      | killed => exact absurd childPhase child.notKilled
      | _ => simp [World.exitCode, childPhase] at ended

/-- A sender that has passed has waited for a receiver that has. -/
theorem child_passed (synchronous : Synchronous setting world)
    (begins : e'.received <+: messages setting role.other) (isSender : role = .sender)
    (advanced : Advanced setting world role move e' chunk)
    (unfinished : (world.endpoint role).phase ≠ .exited 0) (passed : e'.phase = .exited 0) :
    (world.endpoint .receiver).phase = .exited 0 := by
  subst isSender
  cases advanced with
  | action phase todo advanced =>
      cases actionEnd_of_advanceAction synchronous todo begins advanced with
      | goesOn => exact absurd passed unfinished
      | completes resources received =>
          have phases := Endpoint.phase_complete
            { world.endpoint .sender with resources := resources } phase
          rcases phases with same | same <;> rw [same] at passed <;> cases passed
      | fails | starves => cases passed
  | cleanup | waitFails | close => cases passed
  | interrupted => exact absurd passed unfinished
  | waited _ ended =>
      cases passed
      exact ((exitCode_eq_zero ended).mp rfl).2

theorem live_of_advanced (advanced : Advanced setting world role move e' chunk) :
    world.isLive role = true := by
  unfold World.isLive
  cases advanced with
  | action phase | cleanup _ phase | close phase | interrupted phase | waitFails phase
  | waited phase => simp [phase]

end Verdict

/-! ### The verdict of a run

The invariant says for each phase what the answers of its process have been, in both directions. -/

/-- What the phases of the endpoints say about the answers that they have had. -/
structure Judged (setting : Setting) (world : World) : Prop where
  engaged : ∀ role, (world.endpoint role).Engaged
  blames : ∀ role, (world.endpoint role).Unharmed → WentWell setting role world.log
  passes : (∀ role, WentWell setting role world.log) → ∀ role, (world.endpoint role).Unharmed
  child : (world.endpoint .sender).phase = .exited 0 →
    (world.endpoint .receiver).phase = .exited 0

section Run

variable {setting : Setting} {world after : World} {role : Role} {move : Move}

theorem wentWell_append (self : Role) (log : List (Role × Move)) :
    WentWell setting self (log ++ [(role, move)]) ↔
      WentWell setting self log ∧ (self = role → move.goesWell setting = true) := by
  constructor
  · intro well
    refine ⟨fun earlier member => well earlier (List.mem_append_left _ member), fun same => ?_⟩
    exact well move (List.mem_append_right _ (by rw [same]; exact .head []))
  · rintro ⟨well, last⟩ answer member
    rcases List.mem_append.mp member with earlier | isLast
    · exact well answer earlier
    · obtain ⟨same, rfl⟩ := Prod.mk.inj (List.mem_singleton.mp isLast)
      exact last same

/-- What a step does to its own process. -/
structure JudgedStep (setting : Setting) (world : World) (role : Role) (move : Move)
    (e' : Endpoint) : Prop where
  live : world.isLive role = true
  engaged : e'.Engaged
  blames : e'.Unharmed → (world.endpoint role).Unharmed ∧ move.goesWell setting = true
  passes : (∀ role, (world.endpoint role).Unharmed) → move.goesWell setting = true → e'.Unharmed
  child : role = .sender → e'.phase = .exited 0 → (world.endpoint .receiver).phase = .exited 0

/-- A process that is killed has had a bad answer, and does not exit with 0. -/
theorem judgedStep_of_killed (live : world.isLive role = true) :
    JudgedStep setting world role .killed { world.endpoint role with phase := .killed } where
  live := live
  engaged trying := by cases trying
  blames unharmed := absurd rfl unharmed.notKilled
  passes _ well := by cases well
  child _ passed := by cases passed

/-- By cases on the phase and on the action. -/
theorem judgedStep_of_advanced (sized : ∀ role, (setting.metadata role).length = metadataSize)
    (synchronous : Synchronous setting world) (evidence : Evident world)
    (judged : Judged setting world) {e' : Endpoint} {chunk : Bytes}
    (begins : e'.received <+: messages setting role.other)
    (advanced : Advanced setting world role move e' chunk) :
    JudgedStep setting world role move e' where
  live := live_of_advanced advanced
  engaged := engaged_advanced synchronous (judged.engaged role) begins advanced
  blames := blame_advanced synchronous (evidence role) begins advanced
  passes := unharmed_advanced sized synchronous evidence begins advanced
  child isSender := by
    apply child_passed synchronous begins isSender advanced
    intro ended
    have live := live_of_advanced advanced
    simp [World.isLive, ended] at live

/-- The other process has had no answer in this step. -/
theorem judged_step (sized : ∀ role, (setting.metadata role).length = metadataSize)
    (synchronous : Synchronous setting world) (synchronous' : Synchronous setting after)
    (evidence : Evident world) (judged : Judged setting world)
    (taken : world.step setting role move = some after) : Judged setting after := by
  obtain ⟨e', chunk, endpoint, endpoint', -, -, log, how⟩ := step_cases taken
  have own : JudgedStep setting world role move e' := by
    rcases how with ⟨rfl, rfl, -, live⟩ | advanced
    · exact judgedStep_of_killed live
    · have begins := received_begins sized synchronous' role
      rw [endpoint] at begins
      exact judgedStep_of_advanced sized synchronous evidence judged begins advanced
  have apart : role.other ≠ role := by cases role <;> decide
  refine ⟨fun self => ?_, fun self unharmed => ?_, fun well self => ?_, fun passed => ?_⟩
  · rcases self.eq_or_eq_other role with rfl | rfl
    · exact endpoint ▸ own.engaged
    · exact endpoint' ▸ judged.engaged _
  · rw [log, wentWell_append]
    rcases self.eq_or_eq_other role with rfl | rfl
    · obtain ⟨before, well⟩ := own.blames (endpoint ▸ unharmed)
      exact ⟨judged.blames _ before, fun _ => well⟩
    · exact ⟨judged.blames _ (endpoint' ▸ unharmed), fun same => absurd same apart⟩
  · have before : ∀ role, (world.endpoint role).Unharmed := judged.passes fun other =>
      ((wentWell_append other world.log).mp (log ▸ well other)).1
    rcases self.eq_or_eq_other role with rfl | rfl
    · have last := ((wentWell_append self world.log).mp (log ▸ well self)).2 rfl
      exact endpoint ▸ own.passes before last
    · exact endpoint' ▸ before _
  · cases role with
    | sender =>
        rw [Role.other] at endpoint'
        rw [endpoint]  at passed
        rw [endpoint']
        exact own.child rfl passed
    | receiver =>
        rw [Role.other] at endpoint'
        rw [endpoint'] at passed
        have ended := judged.child passed
        have live := own.live
        simp [World.isLive, ended] at live

theorem judged_of_reachable (sized : ∀ role, (setting.metadata role).length = metadataSize)
    (reached : (checkSystem setting).Reachable (fun _ _ => True) world) :
    Judged setting world := by
  refine reached.invariant_with (fun _ reached =>
    And.intro (synchronous_of_reachable sized reached) (evidence_of_reachable sized reached)) ?_ ?_
  · rintro _ rfl
    refine ⟨fun role _ => ?_, fun _ _ _ member => ?_, fun _ role => ?_, fun passed => ?_⟩
    · cases role <;> exact List.cons_ne_nil _ _
    · cases member
    · exact unharmed_of_success rfl (by simp [start]) (by simp [start])
    · cases passed
  · intro before label after known known' judged _ taken
    exact judged_step sized known.1 known'.1 known.2 judged taken

end Run

/-! ### The end of every run, and its verdict -/

section Reachable

variable {setting : Setting} {world : World}

/-- However the bytes are split and whatever fails, the check comes to its end: but for interrupted
calls, a run has at most 196 steps; and as long as one of the processes lives, one of them has a
step before it that needs neither a timeout nor a signal. -/
theorem environment_check_ends (sized : ∀ role, (setting.metadata role).length = metadataSize)
    (buffers : metadataSize ≤ setting.capacity)
    (reached : (checkSystem setting).Reachable (fun _ _ => True) world) :
    completedSteps world.log ≤ 196 ∧
      ∀ role, world.isLive role = true → ∃ role move, world.Expects setting role move ∧
        (world.step setting role move).isSome = true := by
  have synchronous := synchronous_of_reachable sized reached
  have evidence := evidence_of_reachable sized reached
  have judged := judged_of_reachable sized reached
  have counted := counted_of_reachable reached
  have sender := progress_le sized synchronous .sender
  have receiver := progress_le sized synchronous .receiver
  refine ⟨by unfold Counted at counted; omega, fun role live => ?_⟩
  exact someone_goes_on synchronous sized buffers ((evidence .receiver).noWait rfl) judged.engaged
    live

/-- Most of the sample run, with split transfers and one interrupted call; then the receiver is
killed, and the sender goes on. -/
theorem environment_check_ends_killed : ∃ world : World,
    (world.endpoint .receiver).phase = .killed ∧ world.log.length = 21 ∧
    completedSteps world.log ≤ 196 ∧ ∃ role move, world.Expects sampleSetting role move ∧
      (world.step sampleSetting role move).isSome = true := by
  have computed : ∃ world : World, (checkSystem sampleSetting).Reachable (fun _ _ => True) world ∧
      (world.endpoint .receiver).phase = .killed ∧ world.log.length = 21 ∧
      world.isLive .sender = true :=
    LabelledSystem.exists_reachable (.initial rfl) (sampleRun.take 20 ++ [(.receiver, .killed)])
      (by decide +kernel)
  obtain ⟨world, reached, killed, steps, live⟩ := computed
  have ends := environment_check_ends (fun _ => rfl) (by decide) reached
  exact ⟨world, killed, steps, ends.1, ends.2 .sender live⟩

/-- Once the sender has passed, neither process was harmed. -/
theorem unharmed_of_passed (judged : Judged setting world) (evidence : Evident world)
    (passed : (world.endpoint .sender).phase = .exited 0) (role : Role) :
    (world.endpoint role).Unharmed := by
  have child := judged.child passed
  cases role with
  | sender =>
      refine ⟨((evidence .sender).passed rfl passed).1, by simp [passed], fun code phase => ?_⟩
      cases passed.symm.trans phase
      rfl
  | receiver =>
      have result := (evidence .receiver).exited rfl 0 child
      refine ⟨?_, by simp [child], fun code phase => ?_⟩
      · cases failed : (world.endpoint .receiver).failed with
        | false => rfl
        | true => simp [failed] at result
      · cases child.symm.trans phase
        rfl

theorem exited_of_ended {e : Endpoint} (unharmed : e.Unharmed)
    (ended : e.phase.rank = 4) : e.phase = .exited 0 := by
  cases phase : e.phase with
  | exited code => rw [unharmed.exited code phase]
  | killed => exact absurd phase unharmed.notKilled
  | _ => simp [phase, Phase.rank] at ended

theorem rank_of_not_live {role : Role} (ended : world.isLive role = false) :
    (world.endpoint role).phase.rank = 4 := by
  rw [World.isLive] at ended
  cases phase : (world.endpoint role).phase with
  | exited | killed => rfl
  | _ => simp [phase] at ended

/-- The verdict is exact: the parent exits with 0 if and only if every answer in the run was good.
While all of them are, either both processes have exited with 0, or one of them can go on with
another good answer. -/
theorem environment_check_exact (sized : ∀ role, (setting.metadata role).length = metadataSize)
    (buffers : metadataSize ≤ setting.capacity)
    (reached : (checkSystem setting).Reachable (fun _ _ => True) world) :
    (∀ code, (world.endpoint .sender).phase = .exited code →
      (code = 0 ↔ ∀ role, WentWell setting role world.log)) ∧
    ((∀ role, WentWell setting role world.log) →
      (∀ role, (world.endpoint role).phase = .exited 0) ∨
        ∃ role move, move.isInterruption = false ∧ move.goesWell setting = true ∧
          (world.step setting role move).isSome = true) := by
  have synchronous := synchronous_of_reachable sized reached
  have evidence := evidence_of_reachable sized reached
  have judged := judged_of_reachable sized reached
  refine ⟨fun code exited => ⟨fun passed role => ?_, fun well => ?_⟩, fun well => ?_⟩
  · subst passed
    exact judged.blames role (unharmed_of_passed judged evidence exited role)
  · exact (judged.passes well .sender).exited code exited
  · have unharmed := judged.passes well
    by_cases live : ∃ role, world.isLive role = true
    · obtain ⟨role, live⟩ := live
      obtain ⟨role, move, ⟨notInterruption, good | ⟨-, closed, data, rest, todo⟩⟩, taken⟩ :=
        someone_goes_on synchronous sized buffers ((evidence .receiver).noWait rfl) judged.engaged
          live
      · exact .inr ⟨role, move, notInterruption, good, taken⟩
      · have isOpen := no_broken_pipe sized synchronous (evidence _) (unharmed _) todo
        exact absurd (closed.symm.trans isOpen) Bool.false_ne_true
    · refine .inl fun role => exited_of_ended (unharmed role) (rank_of_not_live ?_)
      exact eq_false_of_ne_true fun isLive => live ⟨role, isLive⟩

/-- The sample run has passed, so every answer in it was good. -/
theorem environment_check_exact_sample : ∃ world,
    (checkSystem sampleSetting).Reachable (fun _ _ => True) world ∧
      (world.endpoint .sender).phase = .exited 0 ∧
      ∀ role, WentWell sampleSetting role world.log := by
  have computed : ∃ world, (checkSystem sampleSetting).Reachable (fun _ _ => True) world ∧
      (world.endpoint .sender).phase = .exited 0 :=
    LabelledSystem.exists_reachable (.initial rfl) sampleRun (by decide +kernel)
  obtain ⟨world, reached, passed⟩ := computed
  have exact := environment_check_exact (fun _ => rfl) (by decide) reached
  exact ⟨world, reached, passed, (exact.1 0 passed).mp rfl⟩

end Reachable

end Rdma101.RdmaCheck
