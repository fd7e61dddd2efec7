/-
Module: Rdma101.Locking.Deadlock
Purpose: No set of engines waits on each other: what a party waits for is nearer to the end of a
  section, so the parties that wait lead to one that can step.
Trusted boundary: none
Main exports: Waits, World.rank, Sound.descends, Unfinished, CanStep, no_deadlock
-/
import Rdma101.Lib.WaitsFor
import Rdma101.Locking.Ownership

namespace Rdma101.Locking

variable {Node Thread : Type}

/-! ### Who waits for whom

The rank of a party is its distance from the end of a section: parties in a section have the
least one, then come workers, the queue of an executor, threads that run or wait for an answer,
and last the threads that wait for a resource lock.  Waiting descends in it, so it cannot lead
around. -/

/-- What keeps a party from its next step. -/
inductive Waits (world : World Node Thread) : Party Node Thread → Party Node Thread → Prop where
  | resource {thread holder : Thread} {activity : Activity Node} {tasks : List (Task Node)}
      (held : world.activity thread = some activity)
      (status : activity.status = .resourceWait tasks)
      (lock : world.resourceLock activity.node = some holder) :
      Waits world (.thread thread) (.thread holder)
  | state {thread : Thread} {activity : Activity Node} {body : Section} {rest : List (Task Node)}
      {holder : Party Node Thread} (held : world.activity thread = some activity)
      (status : activity.status = .running (.locked body :: rest))
      (lock : world.stateLock activity.node = some holder) : Waits world (.thread thread) holder
  | handlerState {node : Node} {index : Fin 4} {call : Nat} {holder : Party Node Thread}
      (waits : world.worker node index = .stateWait call)
      (lock : world.stateLock node = some holder) : Waits world (.worker node index) holder
  /-- A queue waits for a worker. -/
  | pool {node : Node} {index : Fin 4} (busy : world.worker node index ≠ .idle) :
      Waits world (.executor node) (.worker node index)
  | queued {thread : Thread} {activity : Activity Node} {call : Nat} {rest : List (Task Node)}
      {rpc : Rpc Node} (held : world.activity thread = some activity)
      (status : activity.status = .waiting call rest) (found : world.calls[call]? = some rpc)
      (queued : call ∈ world.queue rpc.target) :
      Waits world (.thread thread) (.executor rpc.target)
  | handled {thread : Thread} {activity : Activity Node} {call : Nat} {rest : List (Task Node)}
      {rpc : Rpc Node} {index : Fin 4} (held : world.activity thread = some activity)
      (status : activity.status = .waiting call rest) (found : world.calls[call]? = some rpc)
      (busy : (world.worker rpc.target index).call? = some call) :
      Waits world (.thread thread) (.worker rpc.target index)
  | shutdownQueue {thread : Thread} {activity : Activity Node} {rest : List (Task Node)}
      (held : world.activity thread = some activity)
      (status : activity.status = .running (.shutdown :: rest))
      (queued : world.queue activity.node ≠ []) :
      Waits world (.thread thread) (.executor activity.node)
  | shutdownWorker {thread : Thread} {activity : Activity Node} {rest : List (Task Node)}
      {index : Fin 4} (held : world.activity thread = some activity)
      (status : activity.status = .running (.shutdown :: rest))
      (busy : world.worker activity.node index ≠ .idle) :
      Waits world (.thread thread) (.worker activity.node index)

def Status.rank : Status Node → Nat
  | .inState _ _ => 0
  | .running _ | .waiting _ _ => 3
  | .resourceWait _ => 4

def Worker.rank : Worker → Nat
  | .idle | .inState _ => 0
  | .starting _ | .stateWait _ => 1

/-- How far a party is from the end of a section. -/
def World.rank (world : World Node Thread) : Party Node Thread → Nat
  | .thread thread => ((world.activity thread).map fun activity => activity.status.rank).getD 0
  | .worker node index => (world.worker node index).rank
  | .executor _ => 2

theorem rank_thread {world : World Node Thread} {thread : Thread} {activity : Activity Node}
    (held : world.activity thread = some activity) :
    world.rank (.thread thread) = activity.status.rank := by
  rw [World.rank, held]
  rfl

theorem Worker.rank_le (worker : Worker) : worker.rank ≤ 1 := by
  cases worker <;> simp [Worker.rank]

/-- Who holds a state lock is in a section. -/
theorem Sound.rank_holder {world : World Node Thread} (sound : Sound world) {node : Node}
    {holder : Party Node Thread} (lock : world.stateLock node = some holder) :
    world.rank holder = 0 := by
  have inside := sound.state node holder lock
  cases holder with
  | thread thread =>
      obtain ⟨activity, held, isInside⟩ := Option.bind_eq_some_iff.mp inside
      rw [rank_thread held]
      cases status : activity.status <;> simp_all [Activity.stateNode, Status.rank]
  | worker other index =>
      rw [World.insideState] at inside
      rw [World.rank]
      cases worker : world.worker other index <;> simp_all [Worker.stateNode, Worker.rank]
  | executor other => cases inside

/-- Who holds a resource lock does not wait for one. -/
theorem Sound.rank_owner {world : World Node Thread} (sound : Sound world) {node : Node}
    {holder : Thread} (lock : world.resourceLock node = some holder) :
    world.rank (.thread holder) ≤ 3 := by
  obtain ⟨activity, held, owns⟩ := Option.bind_eq_some_iff.mp (sound.resource node holder lock)
  rw [rank_thread held]
  cases status : activity.status <;> simp_all [Activity.resourceNode, Status.rank]

/-- Whoever waits is further from the end of a section than the one it waits for. -/
theorem Sound.descends {world : World Node Thread} (sound : Sound world)
    (party other : Party Node Thread) (waits : Waits world party other) :
    world.rank other < world.rank party := by
  have worker (node : Node) (index : Fin 4) : world.rank (.worker node index) < 2 :=
    Nat.lt_succ_of_le (Worker.rank_le _)
  cases waits with
  | resource held status lock =>
      rw [rank_thread held, status]
      exact Nat.lt_succ_of_le (sound.rank_owner lock)
  | state held status lock =>
      rw [sound.rank_holder lock, rank_thread held, status]
      exact Nat.zero_lt_succ 2
  | handlerState waits lock =>
      rw [sound.rank_holder lock, World.rank, waits]
      exact Nat.zero_lt_one
  | pool busy => exact worker _ _
  | queued held status | shutdownQueue held status =>
      rw [rank_thread held, status]
      exact Nat.lt_succ_self 2
  | handled held status | shutdownWorker held status =>
      rw [rank_thread held, status]
      exact Nat.lt_succ_of_lt (worker _ _)

/-! ### Someone can step

From any party that has not finished, following what it waits for ends at a party that can step.
The server that stops is no exception: it waits for handlers, and these wait only for state
locks. -/

/-- A thread in a method, a worker with a handler, and a queue with calls. -/
def Unfinished (world : World Node Thread) : Party Node Thread → Prop
  | .thread thread => (world.activity thread).isSome = true
  | .worker node index => world.worker node index ≠ .idle
  | .executor node => world.queue node ≠ []

theorem unfinished_thread {world : World Node Thread} {thread : Thread} {activity : Activity Node}
    (held : world.activity thread = some activity) : Unfinished world (.thread thread) := by
  rw [Unfinished, held]
  rfl

/-- Someone in a section has not finished. -/
theorem Sound.unfinished_holder {world : World Node Thread} (sound : Sound world) {node : Node}
    {holder : Party Node Thread} (lock : world.stateLock node = some holder) :
    Unfinished world holder := by
  have inside := sound.state node holder lock
  cases holder with
  | thread thread =>
      obtain ⟨activity, held, -⟩ := Option.bind_eq_some_iff.mp inside
      exact unfinished_thread held
  | worker other index =>
      intro idle
      rw [World.insideState, idle] at inside
      cases inside
  | executor other => cases inside

variable [DecidableEq Node] [DecidableEq Thread]

/-- The party can go on with what it has begun. -/
def CanStep (world : World Node Thread) : Party Node Thread → Prop
  | .thread thread => ∃ step, (world.step (.thread thread step)).isSome = true
  | .worker node index => ∃ step, (world.step (.worker node index step)).isSome = true
  | .executor node => ∃ index, (world.step (.worker node index .take)).isSome = true

section Blocked

variable {world : World Node Thread}

theorem canStep_thread {thread : Thread} {activity : Activity Node}
    (held : world.activity thread = some activity) (step : ThreadStep Node)
    (enabled : (world.stepThread thread activity activity.status step).isSome = true) :
    CanStep world (.thread thread) :=
  ⟨step, by rw [World.step, held]; exact enabled⟩

theorem canStep_worker {node : Node} {index : Fin 4} (step : WorkerStep)
    (enabled : (world.stepWorker node index (world.worker node index) step).isSome = true) :
    CanStep world (.worker node index) :=
  ⟨step, enabled⟩

/-- A thread in a method that cannot step waits for someone. -/
theorem Sound.blocked_thread (sound : Sound world) {thread : Thread} {activity : Activity Node}
    (held : world.activity thread = some activity) :
    CanStep world (.thread thread) ∨
      ∃ other, Unfinished world other ∧ Waits world (.thread thread) other := by
  cases status : activity.status with
  | resourceWait tasks =>
      cases lock : world.resourceLock activity.node with
      | none =>
          refine .inl (canStep_thread held .acquireResource ?_)
          simp [status, World.stepThread, lock]
      | some holder =>
          obtain ⟨other, isOther, -⟩ :=
            Option.bind_eq_some_iff.mp (sound.resource activity.node holder lock)
          exact .inr ⟨_, unfinished_thread isOther, .resource held status lock⟩
  | inState body rest =>
      refine .inl (canStep_thread held (.leaveState .leaves) ?_)
      simp [status, World.stepThread]
  | waiting call rest =>
      have proper := sound.proper thread activity held
      rw [Activity.Proper, status] at proper
      have found := List.getElem?_eq_getElem proper
      cases answer : (world.calls[call]).answer with
      | some ok =>
          refine .inl (canStep_thread held .resume ?_)
          simp [status, World.stepThread, found, answer]
      | none =>
          rcases sound.pending call _ found answer with queued | ⟨index, busy⟩
          · exact .inr ⟨.executor _, List.ne_nil_of_mem queued, .queued held status found queued⟩
          · refine .inr ⟨.worker _ index, fun idle => ?_, .handled held status found busy⟩
            rw [idle] at busy
            cases busy
  | running tasks =>
      cases tasks with
      | nil =>
          refine .inl (canStep_thread held .leave ?_)
          simp [status, World.stepThread]
      | cons task rest =>
          cases task with
          | check =>
              refine .inl (canStep_thread held (.check true) ?_)
              simp [status, World.stepThread]
          | locked body =>
              cases lock : world.stateLock activity.node with
              | none =>
                  refine .inl (canStep_thread held .acquireState ?_)
                  simp [status, World.stepThread, lock]
              | some holder =>
                  exact .inr ⟨holder, sound.unfinished_holder lock, .state held status lock⟩
          | call target =>
              refine .inl (canStep_thread held .call ?_)
              simp [status, World.stepThread]
          | stop =>
              refine .inl (canStep_thread held .stop ?_)
              simp [status, World.stepThread]
          | shutdown =>
              by_cases drained : world.isDrained activity.node = true
              · refine .inl (canStep_thread held .shutdown ?_)
                simp [status, World.stepThread, drained]
              · simp only [World.isDrained, decide_eq_true_eq, not_and_or, not_forall] at drained
                rcases drained with queued | ⟨index, busy⟩
                · exact .inr ⟨.executor _, queued, .shutdownQueue held status queued⟩
                · exact .inr ⟨.worker _ index, busy, .shutdownWorker held status busy⟩

/-- A worker that cannot go on with its handler waits for the state lock. -/
theorem Sound.blocked_worker (sound : Sound world) {node : Node} {index : Fin 4}
    (busy : world.worker node index ≠ .idle) :
    CanStep world (.worker node index) ∨
      ∃ other, Unfinished world other ∧ Waits world (.worker node index) other := by
  cases worker : world.worker node index with
  | idle => exact absurd worker busy
  | starting call =>
      refine .inl (canStep_worker (.check true) ?_)
      simp [worker, World.stepWorker]
  | inState call =>
      refine .inl (canStep_worker (.leaveState true) ?_)
      simp [worker, World.stepWorker]
  | stateWait call =>
      cases lock : world.stateLock node with
      | none =>
          refine .inl (canStep_worker .acquireState ?_)
          simp [worker, World.stepWorker, lock]
      | some holder =>
          exact .inr ⟨holder, sound.unfinished_holder lock, .handlerState worker lock⟩

/-- A call waits in the queue only while all four workers are busy. -/
theorem blocked_executor {node : Node} (waiting : world.queue node ≠ []) :
    CanStep world (.executor node) ∨
      ∃ other, Unfinished world other ∧ Waits world (.executor node) other := by
  by_cases free : world.worker node 0 = .idle
  · refine .inl ⟨0, ?_⟩
    cases queue : world.queue node with
    | nil => exact absurd queue waiting
    | cons call rest => simp [World.step, World.stepWorker, free, queue]
  · exact .inr ⟨.worker node 0, free, .pool free⟩

/-- No deadlock: nobody waits for itself through others, and while a method or a handler has not
finished, a thread or a worker can go on. -/
theorem no_deadlock (reached : (lockSystem Node Thread).Reachable (fun _ _ => True) world) :
    (∀ party, ¬Relation.TransGen (Waits world) party party) ∧
      ((∃ party, Unfinished world party) → ∃ party, CanStep world party) := by
  have sound := sound_of_reachable reached
  refine ⟨WaitsFor.acyclic_of_rank sound.descends, ?_⟩
  rintro ⟨party, unfinished⟩
  refine WaitsFor.exists_enabled sound.descends (fun party unfinished => ?_) unfinished
  cases party with
  | thread thread =>
      obtain ⟨activity, held⟩ := Option.isSome_iff_exists.mp unfinished
      exact sound.blocked_thread held
  | worker node index => exact sound.blocked_worker unfinished
  | executor node => exact blocked_executor unfinished

end Blocked

/-- Two engines connect to each other; both wait for the answer to `Connect`. -/
def connectBoth : List (Move Bool Bool) :=
  [.start false false (.connect (some true)), .start true true (.connect (some false)),
    .thread false .acquireResource, .thread true .acquireResource, .thread false (.check true),
    .thread true (.check true), .thread false .acquireState, .thread true .acquireState,
    .thread false (.leaveState (.goesOn [])), .thread true (.leaveState (.goesOn [])),
    .thread false .call, .thread true .call]

theorem no_deadlock_both : ∃ world : World Bool Bool,
    (world.resourceLock false = some false ∧ world.resourceLock true = some true ∧
      world.queue false = [1] ∧ world.queue true = [0]) ∧
    (∀ party, ¬Relation.TransGen (Waits world) party party) ∧ ∃ party, CanStep world party := by
  have computed : ∃ world, (lockSystem Bool Bool).Reachable (fun _ _ => True) world ∧
      (world.resourceLock false = some false ∧ world.resourceLock true = some true ∧
        world.queue false = [1] ∧ world.queue true = [0]) :=
    LabelledSystem.exists_reachable (.initial rfl) connectBoth (by decide)
  obtain ⟨world, reached, facts⟩ := computed
  have holds := no_deadlock reached
  have unfinished : Unfinished world (.executor false) := by
    rw [Unfinished, facts.2.2.1]
    nofun
  exact ⟨world, facts, holds.1, holds.2 ⟨_, unfinished⟩⟩

end Rdma101.Locking
