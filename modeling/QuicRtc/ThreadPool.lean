import Mathlib.Data.Int.Notation
import Mathlib.Data.List.Basic
import Mathlib.Data.List.Perm.Basic
import Mathlib.Data.Nat.Notation
import QuicRtc.Lib.Transition

/-!
# The thread pool

`ThreadPool` (`impl/threadpool.cpp`) executes tasks at their times on threads that share a queue.
An idle worker waits on a condition variable until the time of the earliest task, and `schedule`
notifies one of the waiting workers.

* `ThreadPool.World`: the pool, the clock, and the calls of `join`. A step is what one thread does
  under `mMutex`, or between two of its sections.
* `Inv`: the invariant.
* `sound`: tasks are executed at most once, not before their times and none before one in the queue
  that is due earlier; `join` finds no task running; and some worker is awake, or its wait ends by
  the time of the earliest task.

A worker that is awake may execute a task for long. `schedule` notifies one worker only, so that a
task can be due in the queue while another worker waits (`twoDue`).

`run` and `runOne` are only called on the threads of the pool.
-/

namespace Rtc

/-- `ThreadPool::Task`. -/
structure ThreadPool.Task (α : Type) where
  time : ℕ
  func : α
  deriving DecidableEq, Repr

/-- How far a worker has come. -/
inductive ThreadPool.Phase (α : Type) where
  /-- The thread is there, `run` has not started. -/
  | spawned
  /-- About to take the lock in `dequeue`. -/
  | polling
  /-- On `mTasksCondition`, until a time if there is one. -/
  | waiting (deadline : Option ℕ)
  /-- Notified on `mTasksCondition`, before it has the lock again. -/
  | notified
  | running (task : Task α)
  /-- `dequeue` has returned no function. -/
  | leaving
  | ended
  deriving DecidableEq, Repr

/-- `ThreadPool`. The queue is sorted by time only, so that its order is left open. -/
structure ThreadPool (α : Type) where
  mWorkers : List (ThreadPool.Phase α) := []
  mBusyWorkers : ℤ := 0
  mJoining : Bool := false
  mTasks : List (ThreadPool.Task α) := []
  deriving DecidableEq, Repr

namespace ThreadPool

variable {α : Type}

/-- A task that was started, with the time and the tasks that were left in the queue. -/
structure Start (α : Type) where
  task : Task α
  time : ℕ
  left : List (Task α)
  deriving DecidableEq, Repr

/-- The pool and the threads that use it. `joiners` are the calls of `join` that have set
`mJoining`, and `locked` says that one of them holds `mWorkersMutex`. -/
structure World (α : Type) where
  pool : ThreadPool α := {}
  now : ℕ := 0
  joiners : ℕ := 0
  locked : Bool := false
  scheduled : List (Task α) := []
  started : List (Start α) := []
  cleared : List (Task α) := []
  deriving DecidableEq, Repr

/-- What the threads do. -/
inductive Event (α : Type) where
  | spawn (count : ℕ)
  | schedule (task : Task α) (worker : ℕ)
  | clear
  /-- A thread of the pool starts `run`. -/
  | run (worker : ℕ)
  /-- A worker has the lock in `dequeue`, at first or behind a wait. -/
  | dequeue (worker top : ℕ)
  /-- The function of a task returns or throws. -/
  | finish (worker : ℕ)
  /-- `run` returns. -/
  | leave (worker : ℕ)
  /-- `join` goes on behind its wait on `mWaitingCondition`. -/
  | join
  | joinLock
  /-- `join` has joined all threads. -/
  | joinDone
  | tick (duration : ℕ)
  deriving DecidableEq, Repr

/-- Is a worker counted by `mBusyWorkers`? -/
def Phase.busy : Phase α → Bool
  | polling => true
  | running _ => true
  | leaving => true
  | _ => false

/-- Does it wait on `mTasksCondition`? -/
def Phase.isWaiting : Phase α → Bool
  | waiting _ => true
  | _ => false

/-- Has its thread ended? -/
def Phase.isEnded : Phase α → Bool
  | ended => true
  | _ => false

/-- A notification on `mTasksCondition`. -/
def Phase.notify : Phase α → Phase α
  | waiting _ => notified
  | phase => phase

/-- The task at the top of the queue, when it is the one at this index. -/
def topAt (tasks : List (Task α)) (top : ℕ) : Option (Task α) :=
  tasks[top]?.filter fun task => tasks.all fun other => task.time ≤ other.time

namespace World

/-- A worker enters a phase, and `mBusyWorkers` changes. -/
def move (w : World α) (worker : ℕ) (phase : Phase α) (busy : ℤ) : World α :=
  { w with
    pool := { w.pool with
      mWorkers := w.pool.mWorkers.set worker phase
      mBusyWorkers := w.pool.mBusyWorkers + busy } }

/-- `ThreadPool::spawn`, under `mWorkersMutex`. -/
def spawn (w : World α) (count : ℕ) : Option (World α) :=
  if w.locked then none
  else
    some { w with
      pool := { w.pool with mWorkers := w.pool.mWorkers ++ List.replicate count .spawned } }

/-- `ThreadPool::schedule`. `notify_one` wakes one of the workers that wait, if there is one. -/
def schedule (w : World α) (task : Task α) (worker : ℕ) : Option (World α) :=
  let pushed := { w with
    pool := { w.pool with mTasks := w.pool.mTasks ++ [task] }
    scheduled := w.scheduled ++ [task] }
  if w.pool.mWorkers.any Phase.isWaiting then
    if (w.pool.mWorkers[worker]?).any Phase.isWaiting then some (pushed.move worker .notified 0)
    else none
  else some pushed

/-- `ThreadPool::clear`. -/
def clear (w : World α) : World α :=
  { w with pool := { w.pool with mTasks := [] }, cleared := w.cleared ++ w.pool.mTasks }

/-- The start of `ThreadPool::run`. -/
def run (w : World α) (worker : ℕ) : Option (World α) :=
  match w.pool.mWorkers[worker]? with
  | some .spawned => some (w.move worker .polling 1)
  | _ => none

/-- The loop of `ThreadPool::dequeue` from its test on, for a worker that counts as busy. -/
def dequeueLoop (w : World α) (worker top : ℕ) : Option (World α) :=
  if w.pool.mJoining then some (w.move worker .leaving 0)
  else if w.pool.mTasks.isEmpty then some (w.move worker (.waiting none) (-1))
  else
    (topAt w.pool.mTasks top).map fun task =>
      if task.time ≤ w.now then
        { w.move worker (.running task) 0 with
          pool := { (w.move worker (.running task) 0).pool with
            mTasks := w.pool.mTasks.eraseIdx top }
          started := w.started ++ [⟨task, w.now, w.pool.mTasks.eraseIdx top⟩] }
      else w.move worker (.waiting (some task.time)) (-1)

/-- `ThreadPool::dequeue`. A worker that has waited counts as busy again, also when it wakes without
a reason, which condition variables allow. -/
def dequeue (w : World α) (worker top : ℕ) : Option (World α) :=
  match w.pool.mWorkers[worker]? with
  | some .polling => w.dequeueLoop worker top
  | some (.waiting _) => (w.move worker .polling 1).dequeueLoop worker top
  | some .notified => (w.move worker .polling 1).dequeueLoop worker top
  | _ => none

/-- The function of a task ends; what it throws is kept for its future. -/
def finish (w : World α) (worker : ℕ) : Option (World α) :=
  match w.pool.mWorkers[worker]? with
  | some (.running _) => some (w.move worker .polling 0)
  | _ => none

/-- The end of `ThreadPool::run`. -/
def leave (w : World α) (worker : ℕ) : Option (World α) :=
  match w.pool.mWorkers[worker]? with
  | some .leaving => some (w.move worker .ended (-1))
  | _ => none

/-- The first half of `ThreadPool::join`, once no worker is busy. -/
def join (w : World α) : Option (World α) :=
  if w.pool.mBusyWorkers = 0 then
    some { w with
      pool := { w.pool with
        mJoining := true
        mWorkers := w.pool.mWorkers.map Phase.notify }
      joiners := w.joiners + 1 }
  else none

/-- The second half takes `mWorkersMutex`. -/
def joinLock (w : World α) : Option (World α) :=
  if w.joiners = 0 ∨ w.locked then none
  else some { w with joiners := w.joiners - 1, locked := true }

/-- It returns when the threads have ended. -/
def joinDone (w : World α) : Option (World α) :=
  if w.locked ∧ w.pool.mWorkers.all Phase.isEnded then
    some { w with
      pool := { w.pool with mWorkers := [], mJoining := false }
      locked := false }
  else none

/-- One step of one thread. -/
def step (w : World α) : Event α → Option (World α)
  | .spawn count => w.spawn count
  | .schedule task worker => w.schedule task worker
  | .clear => some w.clear
  | .run worker => w.run worker
  | .dequeue worker top => w.dequeue worker top
  | .finish worker => w.finish worker
  | .leave worker => w.leave worker
  | .join => w.join
  | .joinLock => w.joinLock
  | .joinDone => w.joinDone
  | .tick duration => some { w with now := w.now + duration }

/-- The pool at the start of the library. -/
def start : World α := {}

end World

/-! ## The invariant -/

/-- Is a worker in this phase going to look at the queue, after the task that it executes if there
is one, or does its wait end by the time of the earliest task? -/
def Phase.watches (tasks : List (Task α)) : Phase α → Prop
  | spawned => True
  | polling => True
  | waiting deadline => ∀ task ∈ tasks, ∃ time ∈ deadline, time ≤ task.time
  | notified => True
  | running _ => True
  | leaving => False
  | ended => False

/-- Has a worker seen `mJoining`? -/
def Phase.isOver : Phase α → Bool
  | leaving => true
  | ended => true
  | _ => false

/-- Does it execute a task? -/
def Phase.isRunning : Phase α → Bool
  | running _ => true
  | _ => false

/-- What holds after every step. `staying` carries `watched`: without `join` no worker goes away. -/
structure Inv (w : World α) : Prop where
  busy : w.pool.mBusyWorkers = w.pool.mWorkers.countP Phase.busy
  joining : w.pool.mJoining = true → ∀ phase ∈ w.pool.mWorkers, phase.isRunning = false
  staying : w.pool.mJoining = false → ∀ phase ∈ w.pool.mWorkers, phase.isOver = false
  tasks : w.scheduled.Perm (w.pool.mTasks ++ w.started.map Start.task ++ w.cleared)
  order : ∀ s ∈ w.started, s.task.time ≤ s.time ∧ ∀ other ∈ s.left, s.task.time ≤ other.time
  watched : w.pool.mJoining = false → w.pool.mWorkers ≠ [] →
    ∃ phase ∈ w.pool.mWorkers, phase.watches w.pool.mTasks

section Moves

variable {w : World α} {worker : ℕ} {old phase : Phase α}

/-- The number of busy workers when one of them enters a phase. -/
theorem countP_set (h : w.pool.mWorkers[worker]? = some old) :
    ((w.pool.mWorkers.set worker phase).countP Phase.busy : ℤ) =
      w.pool.mWorkers.countP Phase.busy + (if phase.busy then 1 else 0) -
        (if old.busy then 1 else 0) := by
  obtain ⟨hlt, hold⟩ := List.getElem?_eq_some_iff.1 h
  have hpositive : old.busy = true → 0 < w.pool.mWorkers.countP Phase.busy := fun hbusy =>
    List.countP_pos_iff.2 ⟨old, List.mem_of_getElem? h, hbusy⟩
  rw [List.countP_set hlt, hold]
  cases phase.busy <;> cases hbusy : old.busy <;>
    simp only [hbusy, if_true, if_false, Bool.false_eq_true, forall_const] at hpositive ⊢ <;> omega

/-- A worker moves and the tasks change with it. What has to be shown is about the new phase and the
tasks. -/
theorem Inv.move (h : Inv w) (hold : w.pool.mWorkers[worker]? = some old) {busy : ℤ}
    (hbusy : busy = (if phase.busy then 1 else 0) - (if old.busy then 1 else 0))
    (hjoining : w.pool.mJoining = true → phase.isRunning = false)
    (hover : w.pool.mJoining = false → phase.isOver = false)
    {tasks : List (Task α)} {scheduled : List (Task α)} {started : List (Start α)}
    (htasks : scheduled.Perm (tasks ++ started.map Start.task ++ w.cleared))
    (horder : ∀ s ∈ started, s.task.time ≤ s.time ∧ ∀ other ∈ s.left, s.task.time ≤ other.time)
    (hwatched : w.pool.mJoining = false → phase.watches tasks ∨
      (tasks = w.pool.mTasks ∧ ¬old.watches w.pool.mTasks)) :
    Inv { w.move worker phase busy with
      pool := { (w.move worker phase busy).pool with mTasks := tasks }
      scheduled, started } where
  busy := by
    show w.pool.mBusyWorkers + busy = _
    rw [h.busy, hbusy]
    have hcount : ((w.pool.mWorkers.set worker phase).countP Phase.busy : ℤ) = _ :=
      countP_set hold
    show _ = ((w.pool.mWorkers.set worker phase).countP Phase.busy : ℤ)
    omega
  joining hj other hother := by
    rcases List.mem_or_eq_of_mem_set hother with hmem | rfl
    · exact h.joining hj other hmem
    · exact hjoining hj
  staying hj other hother := by
    rcases List.mem_or_eq_of_mem_set hother with hmem | rfl
    · exact h.staying hj other hmem
    · exact hover hj
  tasks := htasks
  order := horder
  watched hj _ := by
    obtain ⟨hlt, -⟩ := List.getElem?_eq_some_iff.1 hold
    rcases hwatched hj with hphase | ⟨rfl, hnot⟩
    · exact ⟨phase, List.mem_set hlt phase, hphase⟩
    · -- another worker watches
      have hne := List.ne_nil_of_mem (List.mem_of_getElem? hold)
      obtain ⟨other, hother, hwatches⟩ := h.watched hj hne
      obtain ⟨i, hi⟩ := List.mem_iff_getElem?.1 hother
      refine ⟨other, ?_, hwatches⟩
      have hne : worker ≠ i := by
        rintro rfl
        rw [hold] at hi
        obtain rfl := Option.some.inj hi
        exact hnot hwatches
      apply List.mem_of_getElem?
      show (w.pool.mWorkers.set worker phase)[i]? = some other
      rw [List.getElem?_set_ne hne, hi]

end Moves

/-! ## The steps -/

namespace Inv

variable {w w' : World α}

theorem spawn (h : Inv w) {count : ℕ} (hstep : w.spawn count = some w') : Inv w' := by
  rw [World.spawn, Option.ite_none_left_eq_some, Option.some.injEq] at hstep
  obtain ⟨-, rfl⟩ := hstep
  have hnew : ∀ {phase : Phase α}, phase ∈ List.replicate count .spawned → phase = .spawned :=
    fun hmem => List.eq_of_mem_replicate hmem
  refine ⟨?_, fun hj phase hphase => ?_, fun hj phase hphase => ?_, h.tasks, h.order,
    fun hj hne => ?_⟩
  · have hnone : (List.replicate count (Phase.spawned : Phase α)).countP Phase.busy = 0 :=
      List.countP_eq_zero.2 fun phase hphase => by
        rw [hnew hphase]
        exact Bool.false_ne_true
    show w.pool.mBusyWorkers =
      ((w.pool.mWorkers ++ List.replicate count Phase.spawned).countP Phase.busy : ℕ)
    rw [List.countP_append, hnone, h.busy, Nat.add_zero]
  · rcases List.mem_append.1 hphase with hold | hspawned
    · exact h.joining hj phase hold
    · rw [hnew hspawned]
      rfl
  · rcases List.mem_append.1 hphase with hold | hspawned
    · exact h.staying hj phase hold
    · rw [hnew hspawned]
      rfl
  · by_cases hnil : w.pool.mWorkers = []
    · -- the new workers are the only ones
      obtain ⟨phase, hphase⟩ := List.exists_mem_of_ne_nil _ hne
      have hspawned : phase = .spawned := by
        rcases List.mem_append.1 hphase with hold | hspawned
        · rw [hnil] at hold
          cases hold
        · exact hnew hspawned
      exact ⟨phase, hphase, by rw [hspawned]; trivial⟩
    · obtain ⟨phase, hphase, hwatches⟩ := h.watched hj hnil
      exact ⟨phase, List.mem_append_left _ hphase, hwatches⟩

/-- A worker that neither waits nor has seen `mJoining` looks at the tasks. -/
theorem watches_of_not {phase : Phase α} (hwaiting : phase.isWaiting = false)
    (hover : phase.isOver = false) (tasks : List (Task α)) : phase.watches tasks := by
  cases phase with
  | waiting deadline => cases hwaiting
  | leaving => cases hover
  | ended => cases hover
  | _ => trivial

theorem schedule (h : Inv w) {task : Task α} {worker : ℕ}
    (hstep : w.schedule task worker = some w') : Inv w' := by
  have htasks : (w.scheduled ++ [task]).Perm
      (w.pool.mTasks ++ [task] ++ w.started.map Start.task ++ w.cleared) := by
    refine (h.tasks.append_right [task]).trans ?_
    simp only [List.append_assoc]
    refine List.Perm.append_left _ ?_
    rw [← List.append_assoc]
    exact List.perm_append_comm
  rw [World.schedule] at hstep
  split at hstep
  · split at hstep
    · next hwaits =>
      obtain rfl := Option.some.inj hstep
      obtain ⟨old, hold, hwaiting⟩ := (Option.any_eq_true _ _).1 hwaits
      have hbusy : old.busy = false := by
        cases old with
        | waiting deadline => rfl
        | _ => cases hwaiting
      exact h.move hold (by rw [hbusy]; rfl) (fun _ => rfl) (fun _ => rfl) htasks h.order
        fun _ => Or.inl trivial
    · cases hstep
  · next hnone =>
    obtain rfl := Option.some.inj hstep
    refine ⟨h.busy, h.joining, h.staying, htasks, h.order, fun hj hne => ?_⟩
    -- nobody waits
    obtain ⟨phase, hphase⟩ := List.exists_mem_of_ne_nil _ hne
    refine ⟨phase, hphase, watches_of_not ?_ (h.staying hj phase hphase) _⟩
    rw [← Bool.not_eq_true]
    intro hwaiting
    exact hnone (List.any_eq_true.2 ⟨phase, hphase, hwaiting⟩)

theorem clear (h : Inv w) : Inv w.clear where
  busy := h.busy
  joining := h.joining
  staying := h.staying
  tasks := by
    refine h.tasks.trans ?_
    show (w.pool.mTasks ++ w.started.map Start.task ++ w.cleared).Perm
      ([] ++ w.started.map Start.task ++ (w.cleared ++ w.pool.mTasks))
    rw [List.nil_append, List.append_assoc, ← List.append_assoc _ _ w.pool.mTasks]
    exact List.perm_append_comm
  order := h.order
  watched hj hne := by
    obtain ⟨phase, hphase, -⟩ := h.watched hj hne
    refine ⟨phase, hphase, ?_⟩
    have hover := h.staying hj phase hphase
    cases phase with
    | waiting deadline => exact List.forall_mem_nil _
    | leaving => cases hover
    | ended => cases hover
    | _ => trivial

theorem run (h : Inv w) {worker : ℕ} (hstep : w.run worker = some w') : Inv w' := by
  rw [World.run] at hstep
  split at hstep
  · next hold =>
    obtain rfl := Option.some.inj hstep
    exact h.move hold rfl (fun _ => rfl) (fun _ => rfl) h.tasks h.order fun _ => Or.inl trivial
  · cases hstep

/-- A worker in the loop counts as busy: it is about to look at the tasks. -/
theorem dequeueLoop (h : Inv w) {worker top : ℕ} (hold : w.pool.mWorkers[worker]? = some .polling)
    (hstep : w.dequeueLoop worker top = some w') : Inv w' := by
  rw [World.dequeueLoop] at hstep
  split at hstep
  · next hj =>
    obtain rfl := Option.some.inj hstep
    refine h.move hold rfl (fun _ => rfl) (fun hj' => ?_) h.tasks h.order fun hj' => ?_
    · rw [hj] at hj'
      cases hj'
    · rw [hj] at hj'
      cases hj'
  · next hj =>
    split at hstep
    · next hnil =>
      obtain rfl := Option.some.inj hstep
      refine h.move hold rfl (fun _ => rfl) (fun _ => rfl) h.tasks h.order fun _ => Or.inl ?_
      rw [List.isEmpty_iff.1 hnil]
      exact List.forall_mem_nil _
    · obtain ⟨task, htop, rfl⟩ := Option.map_eq_some_iff.1 hstep
      obtain ⟨hat, hleast⟩ := Option.filter_eq_some_iff.1 htop
      have hearliest : ∀ other ∈ w.pool.mTasks, task.time ≤ other.time := fun other hother =>
        of_decide_eq_true (List.all_eq_true.1 hleast other hother)
      split
      · next hdue =>
        refine h.move hold rfl (fun hj' => absurd hj' hj) (fun _ => rfl) ?_ ?_
          fun _ => Or.inl trivial
        · -- the task moves from the queue to those that were started
          obtain ⟨hlt, rfl⟩ := List.getElem?_eq_some_iff.1 hat
          have hqueue := (List.getElem_cons_eraseIdx_perm hlt).symm.append_right
            (w.started.map Start.task)
          rw [List.map_append, List.map_singleton, ← List.append_assoc]
          exact h.tasks.trans
            ((hqueue.trans (List.perm_append_singleton _ _).symm).append_right w.cleared)
        · intro s hs
          rcases List.mem_append.1 hs with hold' | hnew
          · exact h.order s hold'
          · obtain rfl := List.mem_singleton.1 hnew
            exact ⟨hdue, fun other hother => hearliest other (List.mem_of_mem_eraseIdx hother)⟩
      · exact h.move hold rfl (fun _ => rfl) (fun _ => rfl) h.tasks h.order fun _ =>
          Or.inl fun other hother => ⟨task.time, rfl, hearliest other hother⟩

/-- A worker that has waited counts as busy again. -/
theorem wake (h : Inv w) {worker : ℕ} {old : Phase α} (hold : w.pool.mWorkers[worker]? = some old)
    (hbusy : old.busy = false) : Inv (w.move worker .polling 1) :=
  h.move hold (by rw [hbusy]; rfl) (fun _ => rfl) (fun _ => rfl) h.tasks h.order
    fun _ => Or.inl trivial

theorem getElem?_move {worker : ℕ} {old phase : Phase α} {busy : ℤ}
    (hold : w.pool.mWorkers[worker]? = some old) :
    (w.move worker phase busy).pool.mWorkers[worker]? = some phase := by
  obtain ⟨hlt, -⟩ := List.getElem?_eq_some_iff.1 hold
  exact List.getElem?_set_self hlt

theorem dequeue (h : Inv w) {worker top : ℕ} (hstep : w.dequeue worker top = some w') :
    Inv w' := by
  rw [World.dequeue] at hstep
  split at hstep
  · next hold => exact h.dequeueLoop hold hstep
  · next hold => exact (h.wake hold rfl).dequeueLoop (getElem?_move hold) hstep
  · next hold => exact (h.wake hold rfl).dequeueLoop (getElem?_move hold) hstep
  · cases hstep

theorem finish (h : Inv w) {worker : ℕ} (hstep : w.finish worker = some w') : Inv w' := by
  rw [World.finish] at hstep
  split at hstep
  · next hold =>
    obtain rfl := Option.some.inj hstep
    exact h.move hold rfl (fun _ => rfl) (fun _ => rfl) h.tasks h.order fun _ => Or.inl trivial
  · cases hstep

theorem leave (h : Inv w) {worker : ℕ} (hstep : w.leave worker = some w') : Inv w' := by
  rw [World.leave] at hstep
  split at hstep
  · next hold =>
    obtain rfl := Option.some.inj hstep
    refine h.move hold rfl (fun _ => rfl) (fun hj => ?_) h.tasks h.order fun _ =>
      Or.inr ⟨rfl, fun hwatches => hwatches⟩
    -- a worker leaves only while somebody joins
    exact absurd (h.staying hj _ (List.mem_of_getElem? hold)) (fun hover => Bool.noConfusion hover)
  · cases hstep

/-- `join` goes on when no worker is busy, so that none executes a task. -/
theorem join (h : Inv w) (hstep : w.join = some w') : Inv w' := by
  rw [World.join, Option.ite_none_right_eq_some, Option.some.injEq] at hstep
  obtain ⟨hzero, rfl⟩ := hstep
  have hnone : ∀ phase ∈ w.pool.mWorkers, ¬phase.busy = true := by
    apply List.countP_eq_zero.1
    have hbusy := h.busy
    omega
  have hnotify : ∀ phase : Phase α, phase.notify.busy = phase.busy := fun phase => by
    cases phase <;> rfl
  refine ⟨?_, fun _ phase hphase => ?_, fun hj => Bool.noConfusion hj, h.tasks, h.order,
    fun hj => Bool.noConfusion hj⟩
  · show w.pool.mBusyWorkers = ((w.pool.mWorkers.map Phase.notify).countP Phase.busy : ℕ)
    rw [List.countP_map, h.busy]
    congr 1
    exact List.countP_congr fun phase _ => by rw [Function.comp_apply, hnotify]
  · obtain ⟨old, hold, rfl⟩ := List.mem_map.1 hphase
    have hidle := hnone old hold
    cases old with
    | running task => exact absurd rfl hidle
    | _ => rfl

theorem joinDone (h : Inv w) (hstep : w.joinDone = some w') : Inv w' := by
  rw [World.joinDone, Option.ite_none_right_eq_some, Option.some.injEq] at hstep
  obtain ⟨⟨-, hended⟩, rfl⟩ := hstep
  refine ⟨?_, fun hj => Bool.noConfusion hj, fun _ => List.forall_mem_nil _, h.tasks, h.order,
    fun _ hne => absurd rfl hne⟩
  have hnone : w.pool.mWorkers.countP Phase.busy = 0 :=
    List.countP_eq_zero.2 fun phase hphase => by
      have hover := List.all_eq_true.1 hended phase hphase
      cases phase with
      | ended => exact Bool.false_ne_true
      | _ => cases hover
  show w.pool.mBusyWorkers = _
  rw [h.busy, hnone]
  rfl

/-- Every step preserves the invariant. -/
theorem step (h : Inv w) {e : Event α} (hstep : w.step e = some w') : Inv w' := by
  cases e with
  | spawn count => exact h.spawn hstep
  | schedule task worker => exact h.schedule hstep
  | clear =>
    obtain rfl := Option.some.inj hstep
    exact h.clear
  | run worker => exact h.run hstep
  | dequeue worker top => exact h.dequeue hstep
  | finish worker => exact h.finish hstep
  | leave worker => exact h.leave hstep
  | join => exact h.join hstep
  | joinLock =>
    rw [World.step, World.joinLock, Option.ite_none_left_eq_some, Option.some.injEq] at hstep
    obtain ⟨-, rfl⟩ := hstep
    exact ⟨h.busy, h.joining, h.staying, h.tasks, h.order, h.watched⟩
  | joinDone => exact h.joinDone hstep
  | tick duration =>
    obtain rfl := Option.some.inj hstep
    exact ⟨h.busy, h.joining, h.staying, h.tasks, h.order, h.watched⟩

theorem start : Inv (World.start : World α) where
  busy := rfl
  joining _ := List.forall_mem_nil _
  staying _ := List.forall_mem_nil _
  tasks := .refl _
  order := List.forall_mem_nil _
  watched _ hne := absurd rfl hne

end Inv

/-- **The thread pool.** Whatever the threads do:

* `mBusyWorkers` counts the workers that neither wait nor are at their start or end;
* every task is started at most once: those scheduled are in the queue, started or cleared;
* a task is started when its time has come, and none that is left in the queue has an earlier time;
* while `mJoining` is set no worker executes a task;
* as long as there are workers and nobody joins them, one of them is going to look at the queue
  after what it does, or waits at most until the time of the earliest task. -/
theorem sound {events : List (Event α)} {w : World α}
    (hrun : Transition.run World.step World.start events = some w) :
    w.pool.mBusyWorkers = w.pool.mWorkers.countP Phase.busy ∧
      w.scheduled.Perm (w.pool.mTasks ++ w.started.map Start.task ++ w.cleared) ∧
      (∀ s ∈ w.started, s.task.time ≤ s.time ∧ ∀ other ∈ s.left, s.task.time ≤ other.time) ∧
      (w.pool.mJoining = true → ∀ phase ∈ w.pool.mWorkers, phase.isRunning = false) ∧
      (w.pool.mJoining = false → w.pool.mWorkers ≠ [] →
        ∃ phase ∈ w.pool.mWorkers, phase.watches w.pool.mTasks) := by
  have h : Inv w :=
    Transition.run_invariant_all (fun _ _ _ hw hstep => hw.step hstep) Inv.start hrun
  exact ⟨h.busy, h.tasks, h.order, h.joining, h.watched⟩

/-- Two tasks of the same time wake the same worker, so that the second one has to wait for the end
of the first although the other worker is idle. -/
def twoDue : List (Event ℕ) :=
  [.spawn 2, .run 0, .run 1, .dequeue 0 0, .dequeue 1 0, .schedule ⟨5, 1⟩ 0, .dequeue 0 0,
    .schedule ⟨5, 2⟩ 0, .dequeue 0 0, .tick 5, .dequeue 0 0]

theorem sound_twoDue :
    ∃ w, Transition.run World.step World.start twoDue = some w ∧
      w.pool.mWorkers = [.running ⟨5, 1⟩, .waiting none] ∧ w.pool.mTasks = [⟨5, 2⟩] ∧ w.now = 5 ∧
      w.scheduled.Perm (w.pool.mTasks ++ w.started.map Start.task ++ w.cleared) := by
  have hrun : ∃ w, Transition.run World.step World.start twoDue = some w ∧
      w.pool.mWorkers = [.running ⟨5, 1⟩, .waiting none] ∧ w.pool.mTasks = [⟨5, 2⟩] ∧
      w.now = 5 := ⟨_, rfl, rfl, rfl, rfl⟩
  obtain ⟨w, hrun, hworkers, htasks, hnow⟩ := hrun
  exact ⟨w, hrun, hworkers, htasks, hnow, (sound hrun).2.1⟩

end ThreadPool

end Rtc
