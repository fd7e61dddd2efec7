/-
Module: Rdma101.RdmaCheck.Streams
Purpose: What the endpoints of the environment check have sent and received: each receive obtains
  the bytes of the matching send, however the transfers are split, and the endpoints never wait for
  each other.
Trusted boundary: none
Main exports: Progress, Synchronous, synchronous_step, received_begins, never_both_waiting
-/
import Rdma101.Lib.Framing
import Rdma101.RdmaCheck.Endpoints
import Mathlib.Algebra.GroupWithZero.Nat

namespace Rdma101.RdmaCheck

/-! ### What an endpoint has sent and received

An endpoint keeps only the bytes of its current transfer.  The invariant ties them to the
streams: what was sent is the messages of the finished actions and a part of the current one,
and what was taken are the first bytes of the peer's stream. -/

def Action.data : Action → Bytes
  | .send data => data
  | _ => []

def Action.size? : Action → Option Nat
  | .receive size _ => some size
  | _ => none

/-- The bytes of the action that is under way are a proper part of it. -/
def Action.Partial (pending : Bytes) : Action → Prop
  | .send data => pending <+: data ∧ pending.length < data.length
  | .receive size _ => pending.length < size
  | _ => True

/-- The stream of the endpoint holds what its finished actions and the current one have sent, and
the endpoint has taken the first bytes of the peer's stream, in pieces as its script says. -/
structure Progress (setting : Setting) (role : Role) (e : Endpoint) (own peer : Bytes) :
    Prop where
  splits : e.done ++ e.todo = script role (setting.metadata role)
  own : own = e.done.flatMap Action.data ++ e.sending
  sizes : e.received.map List.length = e.done.filterMap Action.size?
  peer : e.consumed <+: peer
  underWay : ∀ action ∈ e.todo.head?, action.Partial e.pending

section Progress

variable {setting : Setting} {role : Role} {e : Endpoint} {own peer : Bytes}

/-- A script has no empty messages. -/
theorem script_partial (sized : ∀ role, (setting.metadata role).length = metadataSize) :
    ∀ action ∈ script role (setting.metadata role), action.Partial [] := by
  have metadata : 0 < (setting.metadata role).length := by
    rw [sized]
    decide
  cases role <;> simp [script, Action.Partial, metadataSize, metadata]

theorem progress_start (sized : ∀ role, (setting.metadata role).length = metadataSize) :
    Progress setting role { todo := script role (setting.metadata role) } [] [] := by
  refine ⟨rfl, rfl, rfl, List.prefix_rfl, fun action first => ?_⟩
  exact script_partial sized action (List.mem_of_head? first)

/-- The peer's stream grows. -/
theorem Progress.peer_append (progress : Progress setting role e own peer) (chunk : Bytes) :
    Progress setting role e own (peer ++ chunk) :=
  { progress with peer := progress.peer.trans (List.prefix_append peer chunk) }

/-- A change of the phase, of the resources or of the result. -/
theorem Progress.of_same {e' : Endpoint} (progress : Progress setting role e own peer)
    (done : e'.done = e.done) (todo : e'.todo = e.todo) (pending : e'.pending = e.pending)
    (received : e'.received = e.received) : Progress setting role e' own peer := by
  have sending : e'.sending = e.sending := by rw [Endpoint.sending, Endpoint.sending, todo, pending]
  have receiving : e'.receiving = e.receiving := by
    rw [Endpoint.receiving, Endpoint.receiving, todo, pending]
  refine ⟨?_, ?_, ?_, ?_, ?_⟩
  · rw [done, todo]
    exact progress.splits
  · rw [done, sending]
    exact progress.own
  · rw [done, received]
    exact progress.sizes
  · rw [Endpoint.consumed, received, receiving]
    exact progress.peer
  · rw [todo, pending]
    exact progress.underWay

theorem Endpoint.received_complete (e : Endpoint) : e.complete.received = e.received := by
  unfold Endpoint.complete
  split <;> rfl

theorem Progress.throw (progress : Progress setting role e own peer) :
    Progress setting role e.throw own peer := progress.of_same rfl rfl rfl rfl

/-- The current action is complete: `chunk` was the rest of what it sends, and `messages` is what it
obtained. -/
theorem Progress.complete (sized : ∀ role, (setting.metadata role).length = metadataSize)
    (progress : Progress setting role e own peer) {action : Action} {rest : List Action}
    (todo : e.todo = action :: rest) (chunk : Bytes) (messages : List Bytes)
    (written : e.sending ++ chunk = action.data)
    (sizes : messages.map List.length = action.size?.toList)
    (taken : e.received.flatten ++ messages.flatten <+: peer) :
    Progress setting role { e.complete with received := e.received ++ messages } (own ++ chunk)
      peer := by
  have splits := progress.splits
  rw [todo] at splits
  have complete : e.complete = { e with
      done := e.done ++ [action]
      todo := rest
      pending := []
      phase := if rest = [] then .cleanup else e.phase } := by
    rw [Endpoint.complete, todo]
  have sending : Endpoint.sending { e.complete with received := e.received ++ messages } = [] := by
    rw [complete]
    unfold Endpoint.sending
    split <;> rfl
  have receiving :
      Endpoint.receiving { e.complete with received := e.received ++ messages } = [] := by
    rw [complete]
    unfold Endpoint.receiving
    split <;> rfl
  refine ⟨?_, ?_, ?_, ?_, ?_⟩
  · rw [complete]
    simpa using splits
  · rw [sending, complete, progress.own, List.append_assoc, written]
    simp
  · rw [complete]
    have single : [action].filterMap Action.size? = action.size?.toList := by
      cases isReceive : action.size? <;> simp [isReceive]
    rw [List.map_append, progress.sizes, sizes, List.filterMap_append, single]
  · rw [Endpoint.consumed, receiving, List.append_nil, List.flatten_append]
    exact taken
  · rw [complete]
    intro next first
    have member : next ∈ script role (setting.metadata role) := by
      rw [← splits]
      exact List.mem_append_right _ (.tail action (List.mem_of_head? first))
    exact script_partial sized next member

/-- An action that neither sends nor receives is complete. -/
theorem Progress.complete_local
    (sized : ∀ role, (setting.metadata role).length = metadataSize)
    (progress : Progress setting role e own peer) {action : Action} {rest : List Action}
    (todo : e.todo = action :: rest) (silent : action.data = []) (deaf : action.size? = none)
    (notSend : ∀ data, action ≠ .send data) : Progress setting role e.complete own peer := by
  have sending : e.sending = [] := by
    rw [Endpoint.sending, todo]
    cases action with
    | send data => exact absurd rfl (notSend data)
    | _ => rfl
  have taken : e.received.flatten ++ ([] : List Bytes).flatten <+: peer := by
    rw [List.flatten_nil, List.append_nil]
    exact (List.prefix_append _ _).trans progress.peer
  have complete := progress.complete sized todo [] [] (by rw [sending, silent]; rfl)
    (by rw [deaf]; rfl) taken
  rw [List.append_nil, List.append_nil] at complete
  exact complete.of_same rfl rfl rfl e.received_complete

theorem Progress.finish (sized : ∀ role, (setting.metadata role).length = metadataSize)
    (progress : Progress setting role e own peer) {action : Action} {rest : List Action}
    (todo : e.todo = action :: rest) (silent : action.data = []) (deaf : action.size? = none)
    (notSend : ∀ data, action ≠ .send data) (ok : Bool) :
    Progress setting role (e.finish ok) own peer := by
  cases ok with
  | true => exact progress.complete_local sized todo silent deaf notSend
  | false => exact progress.throw

end Progress

section Steps

variable {setting : Setting} {world : World} {role : Role}

/-- One step of `send_bytes`. -/
theorem progress_advanceSend (sized : ∀ role, (setting.metadata role).length = metadataSize)
    {own peer : Bytes} (progress : Progress setting role (world.endpoint role) own peer)
    {data : Bytes} {rest : List Action} (todo : (world.endpoint role).todo = .send data :: rest)
    {move : Move} {e' : Endpoint} {chunk : Bytes}
    (advanced : world.advanceSend setting role data move = some (e', chunk)) :
    Progress setting role e' (own ++ chunk) peer := by
  obtain ⟨within, shorter⟩ := progress.underWay (.send data) (by rw [todo]; rfl)
  have sending : (world.endpoint role).sending = (world.endpoint role).pending := by
    rw [Endpoint.sending, todo]
  have receiving : (world.endpoint role).receiving = [] := by
    rw [Endpoint.receiving, todo]
  have whole : (world.endpoint role).pending ++ data.drop (world.endpoint role).pending.length =
      data := by
    obtain ⟨later, rfl⟩ := within
    rw [List.drop_left]
  cases move with
  | transferred count =>
      simp only [World.advanceSend] at advanced
      split at advanced
      · rename_i fits
        obtain ⟨positive, below, -, -⟩ := fits
        obtain ⟨rfl, rfl⟩ := Prod.mk.inj (Option.some.inj advanced)
        split
        · rename_i last
          have taken : (world.endpoint role).received.flatten ++ ([] : List Bytes).flatten <+:
              peer := by
            rw [List.flatten_nil, List.append_nil]
            exact (List.prefix_append _ _).trans progress.peer
          have complete := progress.complete sized todo
            ((data.drop (world.endpoint role).pending.length).take count) []
            (by rw [sending, last, List.take_length, whole]; rfl) rfl taken
          rw [List.append_nil] at complete
          exact complete.of_same rfl rfl rfl (world.endpoint role).received_complete
        · rename_i notLast
          have more := Framing.prefix_of_take_append within count
          have count' := List.length_take_of_le below
          rw [List.length_drop] at below notLast
          refine ⟨progress.splits, ?_, progress.sizes, ?_, ?_⟩
          · rw [progress.own, sending, List.append_assoc]
            simp only [Endpoint.sending, todo]
          · have consumed := progress.peer
            rw [Endpoint.consumed, receiving] at consumed
            simpa only [Endpoint.consumed, Endpoint.receiving, todo] using consumed
          · simp only [todo, List.head?_cons, Option.mem_some, forall_eq', Action.Partial,
              List.length_append, count']
            exact ⟨more, by omega⟩
      · cases advanced
  | interrupted =>
      obtain ⟨rfl, rfl⟩ := Prod.mk.inj (Option.some.inj advanced)
      rw [List.append_nil]
      exact progress
  | ioFails =>
      obtain ⟨rfl, rfl⟩ := Prod.mk.inj (Option.some.inj advanced)
      rw [List.append_nil]
      exact progress.throw
  | _ => cases advanced

/-- One step of `receive_bytes`. -/
theorem progress_advanceReceive (sized : ∀ role, (setting.metadata role).length = metadataSize)
    {own : Bytes} (progress : Progress setting role (world.endpoint role) own
      (world.sent role.other))
    {size : Nat} {expected : Option UInt8} {rest : List Action}
    (todo : (world.endpoint role).todo = .receive size expected :: rest)
    {move : Move} {e' : Endpoint} {chunk : Bytes}
    (advanced : world.advanceReceive role size expected move = some (e', chunk)) :
    Progress setting role e' (own ++ chunk) (world.sent role.other) := by
  have shorter := progress.underWay (.receive size expected) (by rw [todo]; rfl)
  have sending : (world.endpoint role).sending = [] := by
    rw [Endpoint.sending, todo]
  have consumed : (world.endpoint role).consumed =
      (world.endpoint role).received.flatten ++ (world.endpoint role).pending := by
    rw [Endpoint.consumed, Endpoint.receiving, todo]
  cases move with
  | transferred count =>
      simp only [World.advanceReceive] at advanced
      split at advanced
      · rename_i fits
        obtain ⟨positive, below, available⟩ := fits
        have more : (world.endpoint role).received.flatten ++ ((world.endpoint role).pending ++
            (world.unread role).take count) <+: world.sent role.other := by
          rw [← List.append_assoc, ← consumed]
          exact Framing.prefix_of_take_append progress.peer count
        split at advanced
        · rename_i last
          have length : ((world.endpoint role).pending ++ (world.unread role).take count).length =
              size := by
            rw [List.length_append, List.length_take_of_le available, last]
          have complete := progress.complete sized todo []
            [(world.endpoint role).pending ++ (world.unread role).take count]
            (by rw [sending]; rfl) (by rw [List.map_singleton, length]; rfl)
            (by simpa only [List.flatten_singleton] using more)
          obtain ⟨rfl, rfl⟩ := Prod.mk.inj (Option.some.inj advanced)
          split
          · exact complete
          · exact complete.throw
        · rename_i notLast
          obtain ⟨rfl, rfl⟩ := Prod.mk.inj (Option.some.inj advanced)
          refine ⟨progress.splits, ?_, progress.sizes, ?_, ?_⟩
          · rw [progress.own, sending, List.append_nil]
            simp only [Endpoint.sending, todo]
          · simpa only [Endpoint.consumed, Endpoint.receiving, todo] using more
          · simp only [todo, List.head?_cons, Option.mem_some, forall_eq', Action.Partial,
              List.length_append, List.length_take_of_le available]
            omega
      · cases advanced
  | interrupted =>
      obtain ⟨rfl, rfl⟩ := Prod.mk.inj (Option.some.inj advanced)
      rw [List.append_nil]
      exact progress
  | ioFails =>
      obtain ⟨rfl, rfl⟩ := Prod.mk.inj (Option.some.inj advanced)
      rw [List.append_nil]
      exact progress.throw
  | endOfStream =>
      simp only [World.advanceReceive] at advanced
      split at advanced
      · obtain ⟨rfl, rfl⟩ := Prod.mk.inj (Option.some.inj advanced)
        rw [List.append_nil]
        exact progress.throw
      · cases advanced
  | _ => cases advanced

/-- What a step of a process that is not killed can do. -/
inductive Advanced (setting : Setting) (world : World) (role : Role) :
    Move → Endpoint → Bytes → Prop where
  | action {move : Move} {e' : Endpoint} {chunk : Bytes} {action : Action} {rest : List Action}
      (phase : (world.endpoint role).phase = .trying)
      (todo : (world.endpoint role).todo = action :: rest)
      (advanced : world.advanceAction setting role action move = some (e', chunk)) :
      Advanced setting world role move e' chunk
  | cleanup (errors : ReleaseErrors) (phase : (world.endpoint role).phase = .cleanup) :
      Advanced setting world role (.cleanup errors) { world.endpoint role with
        failed := (world.endpoint role).failed ||
          RdmaCheck.cleanup (world.endpoint role).resources errors
        phase := .close } []
  | close (phase : (world.endpoint role).phase = .close) :
      Advanced setting world role .close { world.endpoint role with
        phase := World.afterClose (world.endpoint role).failed role } []
  | interrupted (phase : (world.endpoint role).phase = .wait) :
      Advanced setting world role .interrupted (world.endpoint role) []
  | waitFails (phase : (world.endpoint role).phase = .wait) :
      Advanced setting world role .waitFails { world.endpoint role with phase := .exited 1 } []
  | waited {code : Nat} (phase : (world.endpoint role).phase = .wait)
      (ended : World.exitCode (world.endpoint role).failed
        (world.endpoint role.other).phase = some code) :
      Advanced setting world role .waited { world.endpoint role with phase := .exited code } []

/-- There are no other steps. -/
theorem advanced_of_advance {move : Move} {e' : Endpoint} {chunk : Bytes}
    (advanced : world.advance setting role move = some (e', chunk)) :
    Advanced setting world role move e' chunk := by
  simp only [World.advance] at advanced
  split at advanced
  · rename_i phase
    split at advanced
    · cases advanced
    · rename_i todo
      exact .action phase todo advanced
  · rename_i phase
    obtain ⟨rfl, rfl⟩ := Prod.mk.inj (Option.some.inj advanced)
    exact .cleanup _ phase
  · rename_i phase
    obtain ⟨rfl, rfl⟩ := Prod.mk.inj (Option.some.inj advanced)
    exact .close phase
  · rename_i phase
    obtain ⟨rfl, rfl⟩ := Prod.mk.inj (Option.some.inj advanced)
    exact .interrupted phase
  · rename_i phase
    obtain ⟨rfl, rfl⟩ := Prod.mk.inj (Option.some.inj advanced)
    exact .waitFails phase
  · rename_i phase
    obtain ⟨code, ended, same⟩ := Option.map_eq_some_iff.mp advanced
    obtain ⟨rfl, rfl⟩ := Prod.mk.inj same
    exact .waited phase ended
  · cases advanced

/-- An action that neither sends nor receives, the resources after it, and whether it succeeds. -/
inductive Decided (setting : Setting) (held : Resources) :
    Action → Move → Resources → Bool → Prop where
  | socketTimeouts (ok : Bool) : Decided setting held .socketTimeouts (.setsockopt ok) held ok
  | createResources (answers : DeviceAnswers) :
      Decided setting held .createResources (.createResources answers)
        (RdmaCheck.createResources setting.deviceName setting.gidIndex answers).1
        (RdmaCheck.createResources setting.deviceName setting.gidIndex answers).2
  | connectQp (toInit toRtr toRts : Int) :
      Decided setting held .connectQp (.connectQp toInit toRtr toRts) held
        (RdmaCheck.connectQp toInit toRtr toRts)
  | writeAndWait {posted : Int} {polls : List Poll} {ok : Bool}
      (ended : RdmaCheck.writeAndWait posted polls = some ok) :
      Decided setting held .writeAndWait (.writeAndWait posted polls) held ok
  | verify (buffer : Nat → UInt8) :
      Decided setting held .verify (.verify buffer) held (RdmaCheck.verify buffer)

/-- The ways through `advanceAction`. -/
inductive ActionStep (setting : Setting) (world : World) (role : Role) :
    Action → Move → Endpoint → Bytes → Prop where
  | send {data : Bytes} {move : Move} {e' : Endpoint} {chunk : Bytes}
      (advanced : world.advanceSend setting role data move = some (e', chunk)) :
      ActionStep setting world role (.send data) move e' chunk
  | receive {size : Nat} {expected : Option UInt8} {move : Move} {e' : Endpoint} {chunk : Bytes}
      (advanced : world.advanceReceive role size expected move = some (e', chunk)) :
      ActionStep setting world role (.receive size expected) move e' chunk
  | decided {action : Action} {move : Move} {resources : Resources} {ok : Bool}
      (how : Decided setting (world.endpoint role).resources action move resources ok) :
      ActionStep setting world role action move
        (Endpoint.finish { world.endpoint role with resources := resources } ok) []

/-- There are no other ways. -/
theorem actionStep_of_advanceAction {action : Action} {move : Move} {e' : Endpoint}
    {chunk : Bytes} (advanced : world.advanceAction setting role action move = some (e', chunk)) :
    ActionStep setting world role action move e' chunk := by
  unfold World.advanceAction at advanced
  split at advanced
  · exact .send advanced
  · exact .receive advanced
  · obtain ⟨rfl, rfl⟩ := Prod.mk.inj (Option.some.inj advanced)
    exact .decided (.socketTimeouts _)
  · obtain ⟨rfl, rfl⟩ := Prod.mk.inj (Option.some.inj advanced)
    exact .decided (.createResources _)
  · obtain ⟨rfl, rfl⟩ := Prod.mk.inj (Option.some.inj advanced)
    exact .decided (.connectQp _ _ _)
  · obtain ⟨ok, ended, same⟩ := Option.map_eq_some_iff.mp advanced
    obtain ⟨rfl, rfl⟩ := Prod.mk.inj same
    exact .decided (.writeAndWait ended)
  · obtain ⟨rfl, rfl⟩ := Prod.mk.inj (Option.some.inj advanced)
    exact .decided (.verify _)
  · cases advanced

theorem Decided.isLocal {held resources : Resources} {action : Action} {move : Move} {ok : Bool}
    (how : Decided setting held action move resources ok) :
    action.data = [] ∧ action.size? = none ∧ ∀ data, action ≠ .send data := by
  cases how <;> exact ⟨rfl, rfl, fun _ => nofun⟩

/-- Every step keeps an endpoint in step with both streams. -/
theorem progress_advanced (sized : ∀ role, (setting.metadata role).length = metadataSize)
    {own : Bytes} (progress : Progress setting role (world.endpoint role) own
      (world.sent role.other)) {move : Move} {e' : Endpoint} {chunk : Bytes}
    (advanced : Advanced setting world role move e' chunk) :
    Progress setting role e' (own ++ chunk) (world.sent role.other) := by
  cases advanced with
  | action _ todo advanced =>
      cases actionStep_of_advanceAction advanced with
      | send advanced => exact progress_advanceSend sized progress todo advanced
      | receive advanced => exact progress_advanceReceive sized progress todo advanced
      | @decided _ _ resources ok how =>
          obtain ⟨silent, deaf, notSend⟩ := how.isLocal
          have same : Progress setting role { world.endpoint role with resources := resources } own
              (world.sent role.other) := progress.of_same rfl rfl rfl rfl
          rw [List.append_nil]
          exact same.finish sized todo silent deaf notSend ok
  | cleanup | close | interrupted | waitFails | waited =>
      rw [List.append_nil]
      exact progress.of_same rfl rfl rfl rfl

/-- A step changes one process and its stream, and is noted in the log. -/
theorem step_cases {move : Move} {after : World}
    (taken : world.step setting role move = some after) :
    ∃ e' chunk, after.endpoint role = e' ∧ after.endpoint role.other = world.endpoint role.other ∧
      after.sent role = world.sent role ++ chunk ∧ after.sent role.other = world.sent role.other ∧
      after.log = world.log ++ [(role, move)] ∧
      ((move = .killed ∧ e' = { world.endpoint role with phase := .killed } ∧ chunk = [] ∧
          world.isLive role = true) ∨
        Advanced setting world role move e' chunk) := by
  have notSelf : role.other ≠ role := by cases role <;> decide
  unfold World.step at taken
  obtain ⟨⟨e', chunk⟩, advanced, rfl⟩ := Option.map_eq_some_iff.mp taken
  refine ⟨e', chunk, if_pos rfl, if_neg notSelf, if_pos rfl, if_neg notSelf, rfl, ?_⟩
  split at advanced
  · split at advanced
    · rename_i live
      obtain ⟨rfl, rfl⟩ := Prod.mk.inj (Option.some.inj advanced)
      exact .inl ⟨rfl, rfl, rfl, live⟩
    · cases advanced
  · exact .inr (advanced_of_advance advanced)

end Steps

/-! ### Streams and waiting

Positions in the streams are sums of message sizes, so that who has to come first is arithmetic
on the two scripts. -/

/-- Both endpoints are where their streams say. -/
def Synchronous (setting : Setting) (world : World) : Prop :=
  ∀ role, Progress setting role (world.endpoint role) (world.sent role) (world.sent role.other)

theorem Role.other_other (role : Role) : role.other.other = role := by cases role <;> rfl

theorem Role.eq_or_eq_other (role self : Role) : role = self ∨ role = self.other := by
  cases role <;> cases self <;> decide

/-- The endpoint that moves stays in step, and the other one sees its peer's stream grow. -/
theorem synchronous_step {setting : Setting} {world after : World} {role : Role} {move : Move}
    (sized : ∀ role, (setting.metadata role).length = metadataSize)
    (synchronous : Synchronous setting world)
    (taken : world.step setting role move = some after) : Synchronous setting after := by
  obtain ⟨e', chunk, endpoint, endpoint', sent, sent', -, how⟩ := step_cases taken
  intro self
  rcases self.eq_or_eq_other role with rfl | rfl
  · rw [endpoint, sent, sent']
    rcases how with ⟨-, rfl, rfl, -⟩ | advanced
    · rw [List.append_nil]
      exact (synchronous self).of_same rfl rfl rfl rfl
    · exact progress_advanced sized (synchronous self) advanced
  · have peer := synchronous role.other
    rw [endpoint', sent', Role.other_other, sent]
    rw [Role.other_other] at peer
    exact peer.peer_append chunk

section Streams

variable {setting : Setting} {role : Role} {e : Endpoint} {own peer : Bytes}

theorem flatMap_script (role : Role) :
    (script role (setting.metadata role)).flatMap Action.data =
      (messages setting role).flatten := by
  cases role <;> simp [script, messages, Action.data]

theorem sizes_script (sized : ∀ role, (setting.metadata role).length = metadataSize)
    (role : Role) : (script role (setting.metadata role)).filterMap Action.size? =
      (messages setting role.other).map List.length := by
  cases role <;> simp only [messages, Role.other, List.map_cons, sized] <;> rfl

/-- The stream begins as the messages do. -/
theorem Progress.own_begins (progress : Progress setting role e own peer) :
    own <+: (messages setting role).flatten := by
  rw [← flatMap_script, ← progress.splits, List.flatMap_append, progress.own,
    List.prefix_append_right_inj]
  have underWay := progress.underWay
  unfold Endpoint.sending
  cases todo : e.todo with
  | nil => exact List.nil_prefix
  | cons action rest =>
      rw [todo] at underWay
      have partly := underWay action rfl
      cases action with
      | send data =>
          rw [List.flatMap_cons]
          exact partly.1.trans (List.prefix_append _ _)
      | _ => exact List.nil_prefix

/-- The messages that an endpoint has received are the first ones that its peer sends. -/
theorem received_begins {world : World}
    (sized : ∀ role, (setting.metadata role).length = metadataSize)
    (synchronous : Synchronous setting world) (role : Role) :
    (world.endpoint role).received <+: messages setting role.other := by
  have progress := synchronous role
  have peer := (synchronous role.other).own_begins
  apply Framing.prefix_of_flatten
  · exact (List.prefix_append _ _).trans (progress.peer.trans peer)
  · rw [progress.sizes, ← sizes_script sized, ← progress.splits, List.filterMap_append]
    exact List.prefix_append _ _

/-- How many bytes each action of a script sends. -/
def outSizes : Role → List Nat
  | .sender => [0, 0, 40, 0, 0, 1, 0, 0, 1, 0]
  | .receiver => [0, 0, 40, 0, 0, 1, 0, 0, 0, 1]

/-- How many bytes each action of a script receives. -/
def inSizes : Role → List Nat
  | .sender => [0, 0, 0, 40, 0, 0, 1, 0, 0, 1]
  | .receiver => [0, 0, 0, 40, 0, 0, 1, 1, 0, 0]

/-- The bytes that the actions before a position send. -/
def sentBefore (role : Role) (position : Nat) : Nat := ((outSizes role).take position).sum

def takenBefore (role : Role) (position : Nat) : Nat := ((inSizes role).take position).sum

theorem outSizes_eq (sized : ∀ role, (setting.metadata role).length = metadataSize)
    (role : Role) :
    (script role (setting.metadata role)).map (fun action => action.data.length) =
      outSizes role := by
  cases role <;> simp [script, Action.data, outSizes, sized, metadataSize]

theorem inSizes_eq (setting : Setting) (role : Role) :
    (script role (setting.metadata role)).map (fun action => action.size?.getD 0) =
      inSizes role := by
  cases role <;> simp [script, Action.size?, inSizes, metadataSize]

theorem length_flatMap_data (actions : List Action) :
    (actions.flatMap Action.data).length = (actions.map fun action => action.data.length).sum := by
  rw [List.length_flatMap]

theorem sum_sizes (actions : List Action) :
    (actions.filterMap Action.size?).sum = (actions.map fun action => action.size?.getD 0).sum := by
  induction actions with
  | nil => rfl
  | cons first rest inductionHypothesis =>
      rw [List.map_cons, List.sum_cons, ← inductionHypothesis, List.filterMap_cons]
      cases first.size? with
      | none => exact (Nat.zero_add _).symm
      | some size => rfl

/-- The finished actions are the first ones of the script. -/
theorem Progress.done_eq (progress : Progress setting role e own peer) :
    e.done = (script role (setting.metadata role)).take e.done.length := by
  rw [← progress.splits, List.take_left]

/-- The length of the own stream, by the place in the script. -/
theorem Progress.length_own (sized : ∀ role, (setting.metadata role).length = metadataSize)
    (progress : Progress setting role e own peer) :
    own.length = sentBefore role e.done.length + e.sending.length := by
  have sum : (e.done.flatMap Action.data).length = sentBefore role e.done.length := by
    rw [length_flatMap_data, sentBefore, ← outSizes_eq sized, ← List.map_take, ← progress.done_eq]
  rw [progress.own, List.length_append, sum]

/-- How much was taken of the peer's stream, by the place in the script. -/
theorem Progress.length_consumed (progress : Progress setting role e own peer) :
    e.consumed.length = takenBefore role e.done.length + e.receiving.length := by
  have sum : e.received.flatten.length = takenBefore role e.done.length := by
    rw [List.length_flatten, progress.sizes, sum_sizes, takenBefore, ← inSizes_eq setting,
      ← List.map_take, ← progress.done_eq]
  rw [Endpoint.consumed, List.length_append, sum]

/-- The current action has its place in the script. -/
theorem Progress.current (progress : Progress setting role e own peer) {action : Action}
    {rest : List Action} (todo : e.todo = action :: rest) :
    (script role (setting.metadata role))[e.done.length]? = some action := by
  rw [← progress.splits, List.getElem?_append_right (Nat.le_refl _), Nat.sub_self, todo]
  rfl

theorem sum_take_succ {sizes : List Nat} {position size : Nat}
    (here : sizes[position]? = some size) :
    (sizes.take (position + 1)).sum = (sizes.take position).sum + size := by
  rw [List.take_add_one, here, List.sum_append]
  simp

end Streams

/-! ### The endpoints never wait for each other

A starving endpoint needs bytes that its peer has not sent, and a blocked one needs room that
its peer has not made.  In none of the combinations can both be behind the other. -/

section Waiting

variable {setting : Setting} {world : World} {role : Role}

/-- An endpoint that waits in a receive has sent what comes before it, has not taken what comes with
it, and finds its stream empty. -/
structure Starving (setting : Setting) (world : World) (role : Role) (position : Nat) : Prop where
  below : position < 10
  receives : 0 < (inSizes role).getD position 0
  sent : (world.sent role).length = sentBefore role position
  taken : (world.endpoint role).consumed.length < takenBefore role (position + 1)
  empty : (world.endpoint role).consumed.length = (world.sent role.other).length

/-- An endpoint that waits in a send finds its stream full. -/
structure Blocked (setting : Setting) (world : World) (role : Role) (position : Nat) : Prop where
  below : position < 10
  sends : 0 < (outSizes role).getD position 0
  sent : (world.sent role).length < sentBefore role (position + 1)
  taken : (world.endpoint role).consumed.length = takenBefore role position
  full : (world.endpoint role.other).consumed.length + setting.capacity ≤
    (world.sent role).length

/-- A receive that finds nothing to read. -/
theorem starving_of_receive (synchronous : Synchronous setting world)
    (sized : ∀ role, (setting.metadata role).length = metadataSize) {size : Nat}
    {expected : Option UInt8} {rest : List Action}
    (todo : (world.endpoint role).todo = .receive size expected :: rest)
    (empty : world.unread role = []) :
    Starving setting world role (world.endpoint role).done.length := by
  have progress := synchronous role
  have current := progress.current todo
  have own := progress.length_own sized
  have consumed := progress.length_consumed
  have sending : (world.endpoint role).sending = [] := by rw [Endpoint.sending, todo]
  have receiving : (world.endpoint role).receiving = (world.endpoint role).pending := by
    rw [Endpoint.receiving, todo]
  have shorter := progress.underWay (.receive size expected) (by rw [todo]; rfl)
  have inSize : (inSizes role)[(world.endpoint role).done.length]? = some size := by
    rw [← inSizes_eq setting, List.getElem?_map, current]
    rfl
  have drained : (world.sent role.other).length ≤ (world.endpoint role).consumed.length :=
    List.drop_eq_nil_iff.mp empty
  have behind := progress.peer.length_le
  refine ⟨?_, ?_, ?_, ?_, by omega⟩
  · have inside := (List.getElem?_eq_some_iff.mp inSize).1
    cases role <;> simpa [inSizes] using inside
  · rw [List.getD_eq_getElem?_getD, inSize]
    exact Nat.lt_of_le_of_lt (Nat.zero_le _) shorter
  · rw [own, sending]
    rfl
  · rw [consumed, receiving, takenBefore, takenBefore, sum_take_succ inSize]
    exact Nat.add_lt_add_left shorter _

/-- A send that finds no room. -/
theorem blocked_of_send (synchronous : Synchronous setting world)
    (sized : ∀ role, (setting.metadata role).length = metadataSize)
    {data : Bytes} {rest : List Action}
    (todo : (world.endpoint role).todo = .send data :: rest)
    (full : setting.capacity ≤ (world.unread role.other).length) (buffers : 0 < setting.capacity) :
    Blocked setting world role (world.endpoint role).done.length := by
  have progress := synchronous role
  have current := progress.current todo
  have own := progress.length_own sized
  have consumed := progress.length_consumed
  have sending : (world.endpoint role).sending = (world.endpoint role).pending := by
    rw [Endpoint.sending, todo]
  have receiving : (world.endpoint role).receiving = [] := by rw [Endpoint.receiving, todo]
  obtain ⟨-, shorter⟩ := progress.underWay (.send data) (by rw [todo]; rfl)
  have outSize : (outSizes role)[(world.endpoint role).done.length]? = some data.length := by
    rw [← outSizes_eq sized, List.getElem?_map, current]
    rfl
  rw [World.unread, Role.other_other, List.length_drop] at full
  refine ⟨?_, ?_, ?_, ?_, by omega⟩
  · have inside := (List.getElem?_eq_some_iff.mp outSize).1
    cases role <;> simpa [outSizes] using inside
  · rw [List.getD_eq_getElem?_getD, outSize]
    exact Nat.lt_of_le_of_lt (Nat.zero_le _) shorter
  · rw [own, sending, sentBefore, sentBefore, sum_take_succ outSize]
    exact Nat.add_lt_add_left shorter _
  · rw [consumed, receiving]
    rfl

/-- The scripts are in step: two receives never wait for bytes that both come later. -/
theorem receives_in_step : ∀ first < 10, ∀ second < 10,
    0 < (inSizes .sender).getD first 0 → 0 < (inSizes .receiver).getD second 0 →
    ¬(sentBefore .receiver second < takenBefore .sender (first + 1) ∧
      sentBefore .sender first < takenBefore .receiver (second + 1)) := by
  decide

/-- Two sends are never both ahead of the other one's receives by a metadata message. -/
theorem sends_in_step : ∀ first < 10, ∀ second < 10,
    0 < (outSizes .sender).getD first 0 → 0 < (outSizes .receiver).getD second 0 →
    ¬(takenBefore .receiver second + metadataSize < sentBefore .sender (first + 1) ∧
      takenBefore .sender first + metadataSize < sentBefore .receiver (second + 1)) := by
  decide

/-- What an endpoint can wait for. -/
theorem waiting_cases (waits : world.waiting setting role = true) :
    (world.endpoint role).phase = .wait ∨
    (world.endpoint role.other).isOpen = true ∧
      ((∃ data rest, (world.endpoint role).todo = .send data :: rest ∧
          setting.capacity ≤ (world.unread role.other).length) ∨
        ∃ size expected rest, (world.endpoint role).todo = .receive size expected :: rest ∧
          world.unread role = []) := by
  simp only [World.waiting] at waits
  split at waits
  · rename_i todo
    obtain ⟨isOpen, full⟩ := Bool.and_eq_true_iff.mp waits
    exact .inr ⟨isOpen, .inl ⟨_, _, todo, of_decide_eq_true full⟩⟩
  · rename_i todo
    obtain ⟨isOpen, empty⟩ := Bool.and_eq_true_iff.mp waits
    exact .inr ⟨isOpen, .inr ⟨_, _, _, todo, of_decide_eq_true empty⟩⟩
  · rename_i phase
    exact .inl phase
  · cases waits

/-- An endpoint that waits for the other one is starving or blocked. -/
theorem starving_or_blocked (synchronous : Synchronous setting world)
    (sized : ∀ role, (setting.metadata role).length = metadataSize)
    (buffers : 0 < setting.capacity) (waits : world.waiting setting role = true)
    (notWait : (world.endpoint role).phase ≠ .wait) :
    ∃ position, Starving setting world role position ∨ Blocked setting world role position := by
  rcases waiting_cases waits with phase | ⟨-, ⟨data, rest, todo, full⟩ |
    ⟨size, expected, rest, todo, empty⟩⟩
  · exact absurd phase notWait
  · exact ⟨_, .inr (blocked_of_send synchronous sized todo full buffers)⟩
  · exact ⟨_, .inl (starving_of_receive synchronous sized todo empty)⟩

/-- The endpoints do not wait for each other. -/
theorem never_both_waiting (synchronous : Synchronous setting world)
    (sized : ∀ role, (setting.metadata role).length = metadataSize)
    (buffers : metadataSize ≤ setting.capacity)
    (noWait : (world.endpoint .receiver).phase ≠ .wait) :
    ¬(world.waiting setting .sender = true ∧ world.waiting setting .receiver = true) := by
  rintro ⟨senderWaits, receiverWaits⟩
  have positive : 0 < setting.capacity := Nat.lt_of_lt_of_le (by decide) buffers
  have senderOpen : (world.endpoint .sender).phase ≠ .wait := by
    intro phase
    rcases waiting_cases receiverWaits with wait | ⟨isOpen, -⟩
    · exact noWait wait
    · rw [Role.other, Endpoint.isOpen, phase] at isOpen
      exact absurd isOpen (by decide)
  obtain ⟨first, sender⟩ :=
    starving_or_blocked synchronous sized positive senderWaits senderOpen
  obtain ⟨second, receiver⟩ :=
    starving_or_blocked synchronous sized positive receiverWaits noWait
  rcases sender with starving | blocked
  · rcases receiver with starving' | blocked'
    · refine receives_in_step first starving.below second starving'.below starving.receives
        starving'.receives ⟨?_, ?_⟩
      · rw [← starving'.sent]
        exact starving.empty ▸ starving.taken
      · rw [← starving.sent]
        exact starving'.empty ▸ starving'.taken
    · have full := blocked'.full
      have empty := starving.empty
      simp only [Role.other] at full empty
      omega
  · rcases receiver with starving' | blocked'
    · have full := blocked.full
      have empty := starving'.empty
      simp only [Role.other] at full empty
      omega
    · have full := blocked.full
      have full' := blocked'.full
      simp only [Role.other, blocked.taken, blocked'.taken] at full full'
      refine sends_in_step first blocked.below second blocked'.below blocked.sends blocked'.sends
        ⟨?_, ?_⟩
      · have sent := blocked.sent
        omega
      · have sent := blocked'.sent
        omega

end Waiting

end Rdma101.RdmaCheck
