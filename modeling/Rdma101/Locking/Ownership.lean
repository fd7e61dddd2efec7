/-
Module: Rdma101.Locking.Ownership
Purpose: Whoever holds a state lock is in a section, whoever holds a resource lock is past it, and
  every call that is not answered is with the executor of its target.
Trusted boundary: none
Main exports: Sound, Sound.stepThread, Sound.stepWorker, sound_of_reachable
-/
import Rdma101.Lib.LockTable
import Rdma101.Locking.Threads

namespace Rdma101.Locking

variable {Node Thread : Type}

/-! ### The invariant

Locks and their holders point to each other, and an unanswered call is in the queue or with a
worker of its target.  The preservation is proved for each change of a thread, a worker or a
queue, and the steps are put together at the end. -/

/-- The node whose state lock the thread holds. -/
def Activity.stateNode (activity : Activity Node) : Option Node :=
  match activity.status with
  | .inState _ _ => some activity.node
  | .resourceWait _ | .running _ | .waiting _ _ => none

/-- The node whose resource lock the thread holds. -/
def Activity.resourceNode (activity : Activity Node) : Option Node :=
  match activity.status with
  | .resourceWait _ => none
  | .inState _ _ | .running _ | .waiting _ _ =>
      if activity.exclusive then some activity.node else none

/-- Only a method that takes the resource lock waits for it, and a call that a thread waits for has
been sent. -/
def Activity.Proper (sent : Nat) (activity : Activity Node) : Prop :=
  match activity.status with
  | .resourceWait _ => activity.exclusive = true
  | .waiting call _ => call < sent
  | .inState _ _ | .running _ => True

theorem Activity.Proper.mono {sent more : Nat} {activity : Activity Node}
    (proper : activity.Proper sent) (longer : sent ≤ more) : activity.Proper more := by
  unfold Activity.Proper at proper ⊢
  split at proper
  · exact proper
  · exact Nat.lt_of_lt_of_le proper longer
  · trivial
  · trivial

/-- The node whose state lock a worker of `node` holds. -/
def Worker.stateNode (node : Node) : Worker → Option Node
  | .inState _ => some node
  | .idle | .starting _ | .stateWait _ => none

/-- The call whose handler the worker runs. -/
def Worker.call? : Worker → Option Nat
  | .idle => none
  | .starting call | .stateWait call | .inState call => some call

namespace World

def insideState (world : World Node Thread) : Party Node Thread → Option Node
  | .thread thread => (world.activity thread).bind Activity.stateNode
  | .worker node index => (world.worker node index).stateNode node
  | .executor _ => none

def ownsResource (world : World Node Thread) (thread : Thread) : Option Node :=
  (world.activity thread).bind Activity.resourceNode

/-- The call is with the executor of the node. -/
def Handled (world : World Node Thread) (node : Node) (call : Nat) : Prop :=
  call ∈ world.queue node ∨ ∃ index, (world.worker node index).call? = some call

end World

structure Sound (world : World Node Thread) : Prop where
  state : LockTable.Owned world.stateLock world.insideState
  resource : LockTable.Owned world.resourceLock world.ownsResource
  proper : ∀ thread activity, world.activity thread = some activity →
    activity.Proper world.calls.length
  pending : ∀ (call : Nat) (rpc : Rpc Node), world.calls[call]? = some rpc → rpc.answer = none →
    world.Handled rpc.target call

theorem sound_start : Sound ({} : World Node Thread) where
  state := nofun
  resource := nofun
  proper := nofun
  pending _ _ := nofun

section Calls

variable [DecidableEq Node] {world : World Node Thread}

/-- A request is queued at its target. -/
theorem Sound.enqueue (sound : Sound world) (target : Node) :
    Sound { world with
      calls := world.calls ++ [{ target := target }]
      queue := Function.update world.queue target
        (world.queue target ++ [world.calls.length]) } where
  state := sound.state
  resource := sound.resource
  proper other otherActivity held :=
    (sound.proper other otherActivity held).mono (by simp)
  pending := by
    intro call rpc found unanswered
    rcases Nat.lt_or_ge call world.calls.length with earlier | last
    · rw [List.getElem?_append_left earlier] at found
      apply (sound.pending call rpc found unanswered).imp_left
      intro queued
      by_cases same : rpc.target = target
      · rw [same] at queued ⊢
        simp [queued]
      · simpa [Function.update_of_ne same] using queued
    · rw [List.getElem?_append_right last] at found
      obtain ⟨isLast, rfl⟩ : call = world.calls.length ∧ { target := target } = rpc := by
        rw [List.getElem?_singleton] at found
        split at found
        · rename_i zero
          exact ⟨by omega, Option.some.inj found⟩
        · cases found
      refine .inl ?_
      simp [isLast]

/-- Aborted calls are answered. -/
theorem Sound.stopServer (sound : Sound world) (node : Node) : Sound (world.stopServer node) where
  state := sound.state
  resource := sound.resource
  proper other otherActivity held :=
    (sound.proper other otherActivity held).mono (by simp [World.stopServer])
  pending := by
    intro call rpc found unanswered
    simp only [World.stopServer, List.getElem?_map, Option.map_eq_some_iff] at found
    obtain ⟨earlier, isEarlier, rfl⟩ := found
    split at unanswered
    · cases unanswered
    · rename_i elsewhere
      rw [if_neg elsewhere]
      exact sound.pending call earlier isEarlier unanswered

end Calls

section Workers

variable [DecidableEq Node] {world : World Node Thread} {node : Node} {index : Fin 4}

theorem worker_update {next : Worker} (other : Node) (position : Fin 4) :
    Function.update world.worker node (Function.update (world.worker node) index next) other
        position =
      if other = node ∧ position = index then next else world.worker other position := by
  by_cases sameNode : other = node
  · subst sameNode
    by_cases sameIndex : position = index
    · subst sameIndex
      simp
    · simp [sameIndex]
  · simp [sameNode]

/-- A step of a worker is seen by no other party. -/
theorem insideState_workers {after : World Node Thread} {next : Worker}
    (threads : after.activity = world.activity)
    (changed : after.worker =
      Function.update world.worker node (Function.update (world.worker node) index next))
    (other : Party Node Thread) (different : other ≠ .worker node index) :
    after.insideState other = world.insideState other := by
  cases other with
  | thread other => simp only [World.insideState, threads]
  | executor other => rfl
  | worker other position =>
      have elsewhere : ¬(other = node ∧ position = index) := by
        rintro ⟨rfl, rfl⟩
        exact different rfl
      simp only [World.insideState, changed, worker_update, if_neg elsewhere]

theorem insideState_worker {after : World Node Thread} {next : Worker}
    (changed : after.worker =
      Function.update world.worker node (Function.update (world.worker node) index next)) :
    after.insideState (.worker node index) = next.stateNode node := by
  simp only [World.insideState, changed, worker_update, and_self, if_true]

/-- A worker goes on without touching a lock. -/
theorem Sound.state_worker (sound : Sound world) {after : World Node Thread} {next : Worker}
    (threads : after.activity = world.activity)
    (changed : after.worker =
      Function.update world.worker node (Function.update (world.worker node) index next))
    (locks : after.stateLock = world.stateLock)
    (same : next.stateNode node = (world.worker node index).stateNode node) :
    LockTable.Owned after.stateLock after.insideState := by
  rw [locks]
  apply sound.state.congr
  intro other
  by_cases isSelf : other = .worker node index
  · rw [isSelf, insideState_worker changed, same]
    rfl
  · exact insideState_workers threads changed other isSelf

/-- What the other workers handle, they handle still. -/
theorem World.Handled.setWorker {target : Node} {call : Nat} {next : Worker}
    (handled : world.Handled target call)
    (kept : (world.worker node index).call? = some call → next.call? = some call) :
    (world.setWorker node index next).Handled target call := by
  refine handled.imp_right fun ⟨position, busy⟩ => ⟨position, ?_⟩
  simp only [World.setWorker, worker_update]
  split
  · rename_i isSelf
    obtain ⟨rfl, rfl⟩ := isSelf
    exact kept busy
  · exact busy

/-- A worker takes a call from the queue. -/
theorem Sound.take (sound : Sound world) {call : Nat} {rest : List Nat}
    (idle : world.worker node index = .idle) (queue : world.queue node = call :: rest) :
    Sound { world.setWorker node index (.starting call) with
      queue := Function.update world.queue node rest } where
  state := sound.state_worker rfl rfl rfl (by rw [idle]; rfl)
  resource := sound.resource
  proper := sound.proper
  pending := by
    intro other rpc found unanswered
    rcases sound.pending other rpc found unanswered with queued | ⟨position, busy⟩
    · by_cases same : rpc.target = node
      · rw [same] at queued ⊢
        rw [queue] at queued
        rcases List.mem_cons.mp queued with rfl | later
        · refine .inr ⟨index, ?_⟩
          simp [World.setWorker, Worker.call?]
        · refine .inl ?_
          simpa using later
      · refine .inl ?_
        simpa [Function.update_of_ne same] using queued
    · refine .inr ⟨position, ?_⟩
      have elsewhere : ¬(rpc.target = node ∧ position = index) := by
        rintro ⟨isNode, rfl⟩
        rw [isNode, idle] at busy
        cases busy
      simp only [World.setWorker, worker_update, if_neg elsewhere, busy]

/-- The handler of a call ends, and the call is answered. -/
theorem Sound.pending_answer (sound : Sound world) {call : Nat} {ok : Bool}
    (busy : (world.worker node index).call? = some call) (other : Nat) (rpc : Rpc Node)
    (found : ((world.setWorker node index .idle).answerCall call ok).calls[other]? = some rpc)
    (unanswered : rpc.answer = none) :
    ((world.setWorker node index .idle).answerCall call ok).Handled rpc.target other := by
  simp only [World.answerCall, World.setWorker, List.getElem?_modify, Option.map_eq_map,
    Option.map_eq_some_iff] at found
  obtain ⟨earlier, isEarlier, rfl⟩ := found
  split at unanswered
  · cases unanswered
  · rename_i different
    rw [if_neg different]
    apply (sound.pending other earlier isEarlier unanswered).setWorker
    intro busy'
    rw [busy] at busy'
    exact absurd (Option.some.inj busy') different

theorem Sound.handlerRaises (sound : Sound world) {call : Nat} {ok : Bool}
    (starts : world.worker node index = .starting call) :
    Sound ((world.setWorker node index .idle).answerCall call ok) where
  state := sound.state_worker rfl rfl rfl (by rw [starts]; rfl)
  resource := sound.resource
  proper other otherActivity held :=
    (sound.proper other otherActivity held).mono (by simp [World.answerCall, World.setWorker])
  pending := sound.pending_answer (by rw [starts]; rfl)

theorem Sound.handlerChecks (sound : Sound world) {call : Nat}
    (starts : world.worker node index = .starting call) :
    Sound (world.setWorker node index (.stateWait call)) where
  state := sound.state_worker rfl rfl rfl (by rw [starts]; rfl)
  resource := sound.resource
  proper := sound.proper
  pending other rpc found unanswered :=
    (sound.pending other rpc found unanswered).setWorker fun busy => by
      rw [starts] at busy
      exact busy

theorem Sound.handlerAcquires (sound : Sound world) {call : Nat}
    (waits : world.worker node index = .stateWait call) :
    Sound { world.setWorker node index (.inState call) with
      stateLock := Function.update world.stateLock node (some (.worker node index)) } where
  state := by
    have outside : world.insideState (.worker node index) = none := by
      rw [World.insideState, waits]
      rfl
    refine sound.state.acquire outside ?_ (insideState_workers rfl rfl)
    rw [insideState_worker rfl]
    rfl
  resource := sound.resource
  proper := sound.proper
  pending other rpc found unanswered :=
    (sound.pending other rpc found unanswered).setWorker fun busy => by
      rw [waits] at busy
      exact busy

theorem Sound.handlerLeaves (sound : Sound world) {call : Nat} {ok : Bool}
    (inState : world.worker node index = .inState call) :
    Sound { (world.setWorker node index .idle).answerCall call ok with
      stateLock := Function.update world.stateLock node none } where
  state := by
    have inside : world.insideState (.worker node index) = some node := by
      rw [World.insideState, inState]
      rfl
    exact sound.state.release inside (insideState_workers rfl rfl)
  resource := sound.resource
  proper other otherActivity held :=
    (sound.proper other otherActivity held).mono (by simp [World.answerCall, World.setWorker])
  pending := sound.pending_answer (by rw [inState]; rfl)

/-- One step of a worker. -/
theorem Sound.stepWorker (sound : Sound world) {node : Node} {index : Fin 4} {step : WorkerStep}
    {after : World Node Thread}
    (taken : world.stepWorker node index (world.worker node index) step = some after) :
    Sound after := by
  unfold World.stepWorker at taken
  split at taken
  · rename_i idle
    split at taken
    · cases taken
    · rename_i queue
      obtain rfl := Option.some.inj taken
      exact sound.take idle queue
  · rename_i starts
    obtain rfl := Option.some.inj taken
    split
    · exact sound.handlerChecks starts
    · exact sound.handlerRaises starts
  · rename_i waits
    split at taken
    · obtain rfl := Option.some.inj taken
      exact sound.handlerAcquires waits
    · cases taken
  · rename_i inState
    obtain rfl := Option.some.inj taken
    exact sound.handlerLeaves inState
  · cases taken

end Workers

variable [DecidableEq Thread]

section Threads

variable {world : World Node Thread} {thread : Thread} {activity : Activity Node}

/-- A step of a thread is seen by no other party. -/
theorem insideState_others {after : World Node Thread} {next : Option (Activity Node)}
    (changed : after.activity = Function.update world.activity thread next)
    (workers : after.worker = world.worker) (other : Party Node Thread)
    (different : other ≠ .thread thread) : after.insideState other = world.insideState other := by
  cases other with
  | thread other =>
      have different' : other ≠ thread := fun same => different (same ▸ rfl)
      simp only [World.insideState, changed, Function.update_of_ne different']
  | worker node index => simp only [World.insideState, workers]
  | executor node => rfl

theorem ownsResource_others {after : World Node Thread} {next : Option (Activity Node)}
    (changed : after.activity = Function.update world.activity thread next) (other : Thread)
    (different : other ≠ thread) : after.ownsResource other = world.ownsResource other := by
  simp only [World.ownsResource, changed, Function.update_of_ne different]

theorem insideState_self {after : World Node Thread} {next : Option (Activity Node)}
    (changed : after.activity = Function.update world.activity thread next) :
    after.insideState (.thread thread) = next.bind Activity.stateNode := by
  simp only [World.insideState, changed, Function.update_self]

theorem ownsResource_self {after : World Node Thread} {next : Option (Activity Node)}
    (changed : after.activity = Function.update world.activity thread next) :
    after.ownsResource thread = next.bind Activity.resourceNode := by
  simp only [World.ownsResource, changed, Function.update_self]

/-- The state locks stay as they are. -/
theorem Sound.state_same (sound : Sound world) {after : World Node Thread}
    {next : Option (Activity Node)}
    (changed : after.activity = Function.update world.activity thread next)
    (workers : after.worker = world.worker) (locks : after.stateLock = world.stateLock)
    (same : next.bind Activity.stateNode = world.insideState (.thread thread)) :
    LockTable.Owned after.stateLock after.insideState := by
  rw [locks]
  apply sound.state.congr
  intro other
  by_cases isSelf : other = .thread thread
  · rw [isSelf, insideState_self changed, same]
  · exact insideState_others changed workers other isSelf

/-- The resource locks stay as they are. -/
theorem Sound.resource_same (sound : Sound world) {after : World Node Thread}
    {next : Option (Activity Node)}
    (changed : after.activity = Function.update world.activity thread next)
    (locks : after.resourceLock = world.resourceLock)
    (same : next.bind Activity.resourceNode = world.ownsResource thread) :
    LockTable.Owned after.resourceLock after.ownsResource := by
  rw [locks]
  apply sound.resource.congr
  intro other
  by_cases isSelf : other = thread
  · rw [isSelf, ownsResource_self changed, same]
  · exact ownsResource_others changed other isSelf

theorem Sound.proper_update (sound : Sound world) {next : Option (Activity Node)} {sent : Nat}
    (longer : world.calls.length ≤ sent) (own : ∀ activity ∈ next, activity.Proper sent) :
    ∀ other otherActivity,
      Function.update world.activity thread next other = some otherActivity →
      otherActivity.Proper sent := by
  intro other otherActivity held
  by_cases isSelf : other = thread
  · rw [isSelf, Function.update_self] at held
    exact own otherActivity held
  · rw [Function.update_of_ne isSelf] at held
    exact (sound.proper other otherActivity held).mono longer

/-- A thread goes on without touching a lock. -/
theorem Sound.setStatus (sound : Sound world) (held : world.activity thread = some activity)
    {status : Status Node} (outside : activity.stateNode = none)
    (stays : ({ activity with status := status } : Activity Node).stateNode = none)
    (keeps : ({ activity with status := status } : Activity Node).resourceNode =
      activity.resourceNode)
    (proper : ({ activity with status := status } : Activity Node).Proper world.calls.length) :
    Sound (world.setStatus thread activity status) where
  state := by
    refine sound.state_same rfl rfl rfl ?_
    simp only [World.insideState, held, Option.bind_some, outside, stays]
  resource := by
    refine sound.resource_same rfl rfl ?_
    simp only [World.ownsResource, held, Option.bind_some, keeps]
  proper := by
    apply sound.proper_update (Nat.le_refl _)
    intro other same
    obtain rfl := Option.some.inj same
    exact proper
  pending := sound.pending

/-- The thread is neither in a section nor before its first lock. -/
def Status.isOutside : Status Node → Prop
  | .running _ | .waiting _ _ => True
  | .resourceWait _ | .inState _ _ => False

theorem Sound.goesOn (sound : Sound world) (held : world.activity thread = some activity)
    (outside : activity.status.isOutside) (tasks : List (Task Node)) :
    Sound (world.setStatus thread activity (.running tasks)) := by
  have facts : activity.stateNode = none ∧ activity.resourceNode =
      if activity.exclusive then some activity.node else none := by
    cases status : activity.status with
    | resourceWait | inState => simp [status, Status.isOutside] at outside
    | running | waiting => simp [Activity.stateNode, Activity.resourceNode, status]
  exact sound.setStatus held facts.1 rfl facts.2.symm trivial

/-- A method starts. -/
theorem Sound.start (sound : Sound world) {after : World Node Thread} {node : Node}
    {operation : Operation Node} (taken : world.stepStart thread node operation = some after) :
    Sound after := by
  unfold World.stepStart at taken
  split at taken
  · cases taken
  · rename_i absent
    obtain rfl := Option.some.inj taken
    refine ⟨sound.state_same rfl rfl rfl ?_, sound.resource_same rfl rfl ?_,
      sound.proper_update (Nat.le_refl _) fun other same => ?_, sound.pending⟩
    · simp only [World.insideState, absent]
      cases operation.exclusive <;> rfl
    · simp only [World.ownsResource, absent]
      cases exclusive : operation.exclusive <;> simp [Activity.resourceNode]
    · obtain rfl := Option.some.inj same
      cases exclusive : operation.exclusive <;> simp [Activity.Proper]

variable [DecidableEq Node]

theorem Sound.acquireResource (sound : Sound world) (held : world.activity thread = some activity)
    {tasks : List (Task Node)} (status : activity.status = .resourceWait tasks) :
    Sound { world.setStatus thread activity (.running tasks) with
      resourceLock := Function.update world.resourceLock activity.node (some thread) } := by
  have exclusive : activity.exclusive = true := by
    have proper := sound.proper thread activity held
    rwa [Activity.Proper, status] at proper
  refine ⟨sound.state_same rfl rfl rfl ?_, sound.resource.acquire ?_ ?_ ?_,
    sound.proper_update (Nat.le_refl _) fun other same => ?_, sound.pending⟩
  · simp [World.insideState, held, Activity.stateNode, status]
  · simp [World.ownsResource, held, Activity.resourceNode, status]
  · rw [ownsResource_self rfl]
    simp [Activity.resourceNode, exclusive]
  · exact ownsResource_others rfl
  · obtain rfl := Option.some.inj same
    trivial

theorem Sound.acquireState (sound : Sound world) (held : world.activity thread = some activity)
    {body : Section} {rest : List (Task Node)}
    (status : activity.status = .running (.locked body :: rest)) :
    Sound { world.setStatus thread activity (.inState body rest) with
      stateLock := Function.update world.stateLock activity.node (some (.thread thread)) } := by
  refine ⟨sound.state.acquire ?_ ?_ ?_, sound.resource_same rfl rfl ?_,
    sound.proper_update (Nat.le_refl _) fun other same => ?_, sound.pending⟩
  · simp [World.insideState, held, Activity.stateNode, status]
  · rw [insideState_self rfl]
    rfl
  · exact insideState_others rfl rfl
  · simp [World.ownsResource, held, Activity.resourceNode, status]
  · obtain rfl := Option.some.inj same
    trivial

/-- The end of a critical section; the flag `closed` matters to no lock. -/
theorem Sound.leaveState (sound : Sound world) (held : world.activity thread = some activity)
    {body : Section} {rest tasks : List (Task Node)} (status : activity.status = .inState body rest)
    (closed : Node → Bool) :
    Sound { world.setStatus thread activity (.running tasks) with
      stateLock := Function.update world.stateLock activity.node none
      closed := closed } := by
  have inside : world.insideState (.thread thread) = some activity.node := by
    simp [World.insideState, held, Activity.stateNode, status]
  refine ⟨sound.state.release inside (insideState_others rfl rfl), sound.resource_same rfl rfl ?_,
    sound.proper_update (Nat.le_refl _) fun other same => ?_, sound.pending⟩
  · simp [World.ownsResource, held, Activity.resourceNode, status]
  · obtain rfl := Option.some.inj same
    trivial

/-- The end of a method. -/
theorem Sound.leave (sound : Sound world) (held : world.activity thread = some activity)
    (status : activity.status = .running []) :
    Sound { world with
      activity := Function.update world.activity thread none
      resourceLock := if activity.exclusive then
          Function.update world.resourceLock activity.node none
        else world.resourceLock } := by
  refine ⟨sound.state_same rfl rfl rfl ?_, ?_,
    sound.proper_update (Nat.le_refl _) fun other same => ?_, sound.pending⟩
  · simp [World.insideState, held, Activity.stateNode, status]
  · cases exclusive : activity.exclusive with
    | true =>
        have owns : world.ownsResource thread = some activity.node := by
          simp [World.ownsResource, held, Activity.resourceNode, status, exclusive]
        exact sound.resource.release owns (ownsResource_others rfl)
    | false =>
        refine sound.resource_same rfl rfl ?_
        simp [World.ownsResource, held, Activity.resourceNode, status, exclusive]
  · cases same

/-- A request that finds no server fails; another one is queued. -/
theorem Sound.stepCall (sound : Sound world) (held : world.activity thread = some activity)
    {target : Option Node} {rest : List (Task Node)}
    (status : activity.status = .running (.call target :: rest)) :
    Sound (world.stepCall thread activity rest target) := by
  have outside : activity.status.isOutside := by
    rw [status]
    trivial
  unfold World.stepCall
  split
  · exact sound.goesOn held outside []
  · rename_i target
    split
    · exact sound.goesOn held outside []
    · refine (sound.enqueue target).setStatus held ?_ rfl ?_ ?_
      · simp [Activity.stateNode, status]
      · simp [Activity.resourceNode, status]
      · simp [Activity.Proper]

/-- One step of a thread. -/
theorem Sound.stepThread (sound : Sound world) (held : world.activity thread = some activity)
    {step : ThreadStep Node} {after : World Node Thread}
    (taken : world.stepThread thread activity activity.status step = some after) : Sound after := by
  unfold World.stepThread at taken
  split at taken
  · rename_i status
    split at taken
    · obtain rfl := Option.some.inj taken
      exact sound.acquireResource held status
    · cases taken
  · rename_i status
    obtain rfl := Option.some.inj taken
    exact sound.goesOn held (by rw [status]; trivial) _
  · rename_i status
    split at taken
    · obtain rfl := Option.some.inj taken
      exact sound.acquireState held status
    · cases taken
  · rename_i status
    obtain rfl := Option.some.inj taken
    exact sound.leaveState held status _
  · rename_i status
    obtain rfl := Option.some.inj taken
    exact sound.stepCall held status
  · rename_i status
    obtain ⟨ok, -, rfl⟩ := Option.map_eq_some_iff.mp taken
    exact sound.goesOn held (by rw [status]; trivial) _
  · rename_i status
    obtain rfl := Option.some.inj taken
    exact (sound.stopServer activity.node).goesOn held (by rw [status]; trivial) _
  · rename_i status
    split at taken
    · obtain rfl := Option.some.inj taken
      exact sound.goesOn held (by rw [status]; trivial) _
    · cases taken
  · rename_i status
    obtain rfl := Option.some.inj taken
    exact sound.leave held status
  · cases taken

theorem sound_of_reachable
    (reached : (lockSystem Node Thread).Reachable (fun _ _ => True) world) : Sound world := by
  apply reached.invariant
  · rintro _ rfl
    exact sound_start
  · intro before move after sound _ taken
    cases move with
    | start thread node operation => exact sound.start taken
    | thread thread step =>
        obtain ⟨activity, held, stepped⟩ := Option.bind_eq_some_iff.mp taken
        exact sound.stepThread held stepped
    | worker node index step => exact sound.stepWorker taken

end Threads

end Rdma101.Locking
