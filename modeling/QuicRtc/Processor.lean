import Mathlib.Data.List.Basic
import QuicRtc.Lib.Transition
import QuicRtc.Queue

/-!
# Processors

`Processor` (`impl/processor.hpp`) executes its tasks one after the other on the shared thread pool.
`enqueue` hands a task to the pool when none is pending there and puts it on `mTasks` otherwise;
every task, when its function returns or throws, hands over the next one (`schedule`, called by the
scope guard around the function).

* `World`: a processor, its tasks in the pool, and the workers that execute them. The pool is shared
  with other owners and sorts its queue by time, so a worker may take any task that is there.
* `Serial`: the invariant.
* `serialised`: the tasks are executed one at a time, each once and in the order of `enqueue`.

`ThreadPool::clear` is left out: it is called by the library's cleanup, when nothing that owns a
processor is left.
-/

namespace Rtc

/-- The state of a `Processor`. -/
structure Processor (α : Type) where
  mTasks : Queue α
  mPending : Bool := false

namespace Processor

variable {α : Type}

/-- How far a worker has come with a task: it is in the function, or the function has returned or
thrown and the scope guard is about to call `schedule`. -/
inductive Phase where
  | calling
  | returned
  | threw
  deriving DecidableEq, Repr

/-- A worker of the pool that executes a task of the processor. -/
structure Worker (α : Type) where
  task : α
  phase : Phase := .calling
  deriving DecidableEq, Repr

/-- The processor and its tasks in the thread pool: those in the queue of the pool and those that
workers have taken from it. The tasks are recorded as they are enqueued, started and done. -/
structure World (α : Type) where
  processor : Processor α
  pool : List α := []
  running : List (Worker α) := []
  enqueued : List α := []
  started : List α := []
  done : List α := []

/-- What the threads do. A task that enqueues tasks itself is a thread like any other. -/
inductive Event (α : Type) where
  | enqueue (task : α)
  /-- A worker takes a task of the processor from the pool. -/
  | dequeue (index : ℕ)
  /-- The function of a running task returns or throws. -/
  | leave (index : ℕ) (threw : Bool)
  /-- The scope guard of a task calls `schedule`. -/
  | schedule (index : ℕ)
  deriving DecidableEq, Repr

namespace World

/-- A new processor. The limit is `0` for every processor of the library. -/
def start (limit : ℕ) : World α :=
  { processor := { mTasks := { mLimit := limit, mAmountFunction := fun _ => 1 } } }

/-- `Processor::enqueue`, under the lock of the processor. It waits while `mTasks` is full. -/
def enqueue (w : World α) (task : α) : Option (World α) :=
  if !w.processor.mPending then
    some
      { w with
        processor := { w.processor with mPending := true }
        pool := w.pool ++ [task]
        enqueued := w.enqueued ++ [task] }
  else if w.processor.mTasks.canPush then
    some
      { w with
        processor := { w.processor with mTasks := w.processor.mTasks.push task }
        enqueued := w.enqueued ++ [task] }
  else none

/-- `ThreadPool::runOne`: a worker dequeues a task and calls it. -/
def dequeue (w : World α) (index : ℕ) : Option (World α) :=
  (w.pool[index]?).map fun task =>
    { w with
      pool := w.pool.eraseIdx index
      running := w.running ++ [{ task }]
      started := w.started ++ [task] }

/-- The function of a running task ends; an exception is stored by the pool for the future of the
task. -/
def leave (w : World α) (index : ℕ) (threw : Bool) : Option (World α) :=
  (w.running[index]?).bind fun worker =>
    if worker.phase = .calling then
      some
        { w with
          running := w.running.set index
            { worker with phase := if threw then .threw else .returned } }
    else none

/-- `Processor::schedule`, under the lock of the processor, as the last action of a task. -/
def schedule (w : World α) (index : ℕ) : Option (World α) :=
  (w.running[index]?).bind fun worker =>
    if worker.phase ≠ .calling then
      let w' := { w with running := w.running.eraseIdx index, done := w.done ++ [worker.task] }
      match w.processor.mTasks.pop with
      | (some next, mTasks) =>
        some
          { w' with
            processor := { w.processor with mTasks }
            pool := w.pool ++ [next] }
      | (none, _) => some { w' with processor := { w.processor with mPending := false } }
    else none

/-- One step of one thread. -/
def step (w : World α) : Event α → Option (World α)
  -- a task may enqueue as well, so every step is possible at any time
  | .enqueue task => w.enqueue task
  | .dequeue index => w.dequeue index
  | .leave index threw => w.leave index threw
  | .schedule index => w.schedule index

end World

/-- The invariant: `pending` says where the one task is that the processor has in the pool. -/
structure Serial (w : World α) : Prop where
  running : w.processor.mTasks.mStopping = false
  pending : (w.processor.mPending = true ∧
      ((∃ task, w.pool = [task] ∧ w.running = []) ∨ ∃ worker, w.pool = [] ∧ w.running = [worker])) ∨
    (w.processor.mPending = false ∧ w.pool = [] ∧ w.running = [] ∧
      w.processor.mTasks.mQueue = [])
  order : w.started ++ w.pool ++ w.processor.mTasks.mQueue = w.enqueued
  done : w.done ++ w.running.map (·.task) = w.started

namespace Serial

variable {w w' : World α}

theorem start (limit : ℕ) : Serial (World.start limit : World α) where
  running := rfl
  pending := Or.inr ⟨rfl, rfl, rfl, rfl⟩
  order := rfl
  done := rfl

/-- The one element of a list with one element. -/
private theorem eq_of_getElem?_singleton {β : Type} {a b : β} {i : ℕ} (h : [a][i]? = some b) :
    i = 0 ∧ a = b := by
  simpa [List.getElem?_singleton] using h

/-- A task goes to the pool if nothing is pending there, and behind the waiting tasks otherwise. -/
theorem enqueue (h : Serial w) {task : α} (hstep : w.enqueue task = some w') : Serial w' := by
  unfold World.enqueue at hstep
  rcases h.pending with ⟨hpending, hwhere⟩ | ⟨hpending, hpool, hrunning, hqueue⟩
  · simp only [hpending, Bool.not_true, Bool.false_eq_true, if_false,
      Option.ite_none_right_eq_some, Option.some.injEq] at hstep
    obtain ⟨-, rfl⟩ := hstep
    -- the queue of a processor is never stopped, so the push is kept
    have hpush := Queue.mQueue_push_of_running h.running task
    refine ⟨by simpa using h.running, Or.inl ⟨rfl, hwhere⟩, ?_, h.done⟩
    simp only [hpush]
    rw [← List.append_assoc, h.order]
  · simp only [hpending, Bool.not_false, if_true, Option.some.injEq] at hstep
    subst hstep
    -- nothing waits, so the task is the next in order
    have horder := h.order
    rw [hpool, hqueue, List.append_nil, List.append_nil] at horder
    refine ⟨h.running, Or.inl ⟨rfl, Or.inl ⟨task, by simp [hpool], hrunning⟩⟩, ?_, h.done⟩
    simp [hpool, hqueue, horder]

/-- The only task of the processor in the pool is taken by a worker. -/
theorem dequeue (h : Serial w) {index : ℕ} (hstep : w.dequeue index = some w') : Serial w' := by
  unfold World.dequeue at hstep
  obtain ⟨task, htask, rfl⟩ := Option.map_eq_some_iff.1 hstep
  rcases h.pending with ⟨hpending, ⟨first, hpool, hrunning⟩ | ⟨worker, hpool, -⟩⟩ | ⟨-, hpool, -⟩
  · -- it moves from the pool to the worker, and nothing was running
    rw [hpool] at htask
    obtain ⟨rfl, rfl⟩ := eq_of_getElem?_singleton htask
    have horder := h.order
    have hdone := h.done
    rw [hrunning, List.map_nil, List.append_nil] at hdone
    rw [hpool] at horder
    refine ⟨h.running, Or.inl ⟨hpending, Or.inr ⟨{ task := first }, ?_, ?_⟩⟩, ?_, ?_⟩
    · simp [hpool]
    · simp [hrunning]
    · simpa [hpool] using horder
    · simp [hrunning, hdone]
  · -- no task of the processor is in the pool
    simp [hpool] at htask
  · simp [hpool] at htask

/-- The function of the running task ends. -/
theorem leave (h : Serial w) {index : ℕ} {threw : Bool} (hstep : w.leave index threw = some w') :
    Serial w' := by
  unfold World.leave at hstep
  obtain ⟨worker, hworker, hstep⟩ := Option.bind_eq_some_iff.1 hstep
  rcases h.pending with ⟨hpending, ⟨-, -, hrunning⟩ | ⟨only, hpool, hrunning⟩⟩ | ⟨-, -, hrunning, -⟩
  · simp [hrunning] at hworker
  · simp only [Option.ite_none_right_eq_some, Option.some.injEq] at hstep
    obtain ⟨-, rfl⟩ := hstep
    rw [hrunning] at hworker
    obtain ⟨rfl, rfl⟩ := eq_of_getElem?_singleton hworker
    refine ⟨h.running, Or.inl ⟨hpending, Or.inr ⟨_, hpool, by rw [hrunning, List.set_cons_zero]⟩⟩,
      h.order, ?_⟩
    simpa [hrunning] using h.done
  · simp [hrunning] at hworker

/-- The running task hands over to the next one, or leaves the processor idle. -/
theorem schedule (h : Serial w) {index : ℕ} (hstep : w.schedule index = some w') : Serial w' := by
  unfold World.schedule at hstep
  obtain ⟨worker, hworker, hstep⟩ := Option.bind_eq_some_iff.1 hstep
  rcases h.pending with ⟨hpending, ⟨-, -, hrunning⟩ | ⟨only, hpool, hrunning⟩⟩ | ⟨-, -, hrunning, -⟩
  · simp [hrunning] at hworker
  · split at hstep
    · -- the worker is the only one, whether its function returned or threw
      rw [hrunning] at hworker
      obtain ⟨rfl, rfl⟩ := eq_of_getElem?_singleton hworker
      have hdone := h.done
      have horder := h.order
      rw [hrunning] at hdone
      rw [hpool, List.append_nil] at horder
      cases hqueue : w.processor.mTasks.mQueue with
      -- nothing waits: `mPending` is cleared under the same lock
      | nil =>
        simp only [Queue.pop, hqueue, Option.some.injEq] at hstep
        subst hstep
        refine ⟨h.running, Or.inr ⟨rfl, hpool, by simp [hrunning], hqueue⟩, ?_, ?_⟩
        · simpa [hpool] using horder
        · simpa [hrunning] using hdone
      -- the next task takes the place of this one, with `mPending` set all along
      | cons next rest =>
        simp only [Queue.pop, hqueue, Option.some.injEq] at hstep
        subst hstep
        refine ⟨h.running, Or.inl ⟨hpending, Or.inl ⟨next, by simp [hpool], by simp [hrunning]⟩⟩,
          ?_, ?_⟩
        · simpa [hpool, hqueue] using horder
        · simpa [hrunning] using hdone
    · cases hstep
  · simp [hrunning] at hworker

/-- Every step preserves the invariant. -/
theorem step (h : Serial w) {e : Event α} (hstep : w.step e = some w') : Serial w' := by
  cases e with
  | enqueue task => exact h.enqueue hstep
  | dequeue index => exact h.dequeue hstep
  | leave index threw => exact h.leave hstep
  | schedule index => exact h.schedule hstep

end Serial

/-- Whatever the threads do and whether or not the tasks throw:

* the processor has exactly one task in the pool, waiting there or running, while `mPending` is
  true, and none otherwise; `mTasks` is then empty;
* the tasks started, in their order, are the first of those enqueued, and the waiting ones follow,
  so that every task is started once and in the order of `enqueue`; a task is done before the next
  one is started;
* no task is lost: when none is in the pool, all tasks enqueued are done. -/
theorem serialised {limit : ℕ} {events : List (Event α)} {w : World α}
    (hrun : Transition.run World.step (World.start limit) events = some w) :
    w.pool.length + w.running.length = (if w.processor.mPending then 1 else 0) ∧
      (w.processor.mPending = false → w.processor.mTasks.mQueue = []) ∧
      w.started ++ w.pool ++ w.processor.mTasks.mQueue = w.enqueued ∧
      w.done ++ w.running.map (·.task) = w.started ∧
      (w.pool = [] → w.running = [] → w.done = w.enqueued) := by
  have h : Serial w :=
    Transition.run_invariant_all (fun _ _ _ hw hstep => hw.step hstep) (Serial.start limit) hrun
  refine ⟨?_, ?_, h.order, h.done, ?_⟩
  · rcases h.pending with ⟨hpending, ⟨_, hpool, hrunning⟩ | ⟨_, hpool, hrunning⟩⟩ |
      ⟨hpending, hpool, hrunning, -⟩ <;> simp [hpending, hpool, hrunning]
  · intro hidle
    rcases h.pending with ⟨hpending, -⟩ | ⟨-, -, -, hqueue⟩
    · rw [hidle] at hpending
      cases hpending
    · exact hqueue
  · intro hpool hrunning
    rcases h.pending with ⟨-, ⟨_, hone, -⟩ | ⟨_, -, hone⟩⟩ | ⟨-, -, -, hqueue⟩
    · simp [hpool] at hone
    · simp [hrunning] at hone
    · have horder := h.order
      have hdone := h.done
      rw [hpool, hqueue, List.append_nil, List.append_nil] at horder
      rw [hrunning, List.map_nil, List.append_nil] at hdone
      rw [hdone, horder]

/-- The first task enqueues another one while it runs and throws; a third comes before it hands
over. -/
def handOverEvents : List (Event ℕ) :=
  [.enqueue 1, .dequeue 0, .enqueue 2, .leave 0 true, .enqueue 3, .schedule 0, .dequeue 0]

theorem serialised_handOverEvents :
    ∃ w, Transition.run World.step (World.start 0) handOverEvents = some w ∧
      w.done = [1] ∧ w.started = [1, 2] ∧ w.pool = [] ∧ w.processor.mTasks.mQueue = [3] ∧
      w.started ++ w.pool ++ w.processor.mTasks.mQueue = w.enqueued := by
  have hrun : ∃ w, Transition.run World.step (World.start 0) handOverEvents = some w ∧
      w.done = [1] ∧ w.started = [1, 2] ∧ w.pool = [] ∧ w.processor.mTasks.mQueue = [3] :=
    ⟨_, rfl, rfl, rfl, rfl, rfl⟩
  obtain ⟨w, hrun, hdone, hstarted, hpool, hqueue⟩ := hrun
  exact ⟨w, hrun, hdone, hstarted, hpool, hqueue, (serialised hrun).2.2.1⟩

end Processor

end Rtc
