import Mathlib.Data.Nat.Notation

/-!
# The message queue

`Queue<T>` of `impl/queue.hpp`: a FIFO queue with an optional limit on the number of elements, an
amount accumulated over the elements, and a stop flag after which nothing is pushed any more. The
amount is a `size_t`, whose arithmetic wraps around.

The lock of the queue makes each operation atomic. A `push` on a full queue waits until there is
room or the queue is stopped; `canPush` is the condition it waits for.
-/

namespace Rtc

/-- The state of a `Queue<T>`. A limit of `0` means no limit. -/
structure Queue (α : Type) where
  mLimit : ℕ
  mAmountFunction : α → ℕ
  mAmount : UInt64 := 0
  mQueue : List α := []
  mStopping : Bool := false

namespace Queue

variable {α : Type}

/-- `Queue::stop`. -/
def stop (q : Queue α) : Queue α := { q with mStopping := true }

/-- `Queue::running`. -/
def running (q : Queue α) : Bool := !q.mQueue.isEmpty || !q.mStopping

/-- `Queue::full`. -/
def full (q : Queue α) : Bool := q.mLimit > 0 && q.mQueue.length ≥ q.mLimit

/-- The condition `push` waits for. -/
def canPush (q : Queue α) : Bool := q.mLimit = 0 || q.mQueue.length < q.mLimit || q.mStopping

/-- `Queue::push`, once `canPush` holds. A stopped queue drops the element. -/
def push (q : Queue α) (element : α) : Queue α :=
  if q.mStopping then q
  else
    { q with
      mAmount := q.mAmount + .ofNat (q.mAmountFunction element)
      mQueue := q.mQueue ++ [element] }

/-- `Queue::pop`. -/
def pop (q : Queue α) : Option α × Queue α :=
  match q.mQueue with
  | [] => (none, q)
  | element :: rest =>
    (some element,
      { q with
        mAmount := q.mAmount - .ofNat (q.mAmountFunction element)
        mQueue := rest })

/-- `Queue::peek`. -/
def peek (q : Queue α) : Option α := q.mQueue.head?

/-- `Queue::exchange`, which leaves the amount alone. -/
def exchange (q : Queue α) (element : α) : Option α × Queue α :=
  match q.mQueue with
  | [] => (none, q)
  | front :: rest => (some front, { q with mQueue := element :: rest })

theorem push_of_stopping {q : Queue α} (h : q.mStopping = true) (element : α) :
    q.push element = q := by
  simp [push, h]

theorem mQueue_push_of_running {q : Queue α} (h : q.mStopping = false) (element : α) :
    (q.push element).mQueue = q.mQueue ++ [element] := by
  simp [push, h]

@[simp]
theorem mStopping_push (q : Queue α) (element : α) :
    (q.push element).mStopping = q.mStopping := by
  unfold push
  split <;> rfl

@[simp]
theorem mStopping_pop (q : Queue α) : q.pop.2.mStopping = q.mStopping := by
  unfold pop
  split <;> rfl

@[simp]
theorem mQueue_pop (q : Queue α) : q.pop.2.mQueue = q.mQueue.tail := by
  unfold pop
  split
  · next h => simp [h]
  · next h => simp [h]

@[simp]
theorem mStopping_exchange (q : Queue α) (element : α) :
    (q.exchange element).2.mStopping = q.mStopping := by
  unfold exchange
  split <;> rfl

theorem mQueue_exchange {q : Queue α} {front : α} {rest : List α} (h : q.mQueue = front :: rest)
    (element : α) : (q.exchange element).2.mQueue = element :: rest := by
  simp [exchange, h]

end Queue

end Rtc
