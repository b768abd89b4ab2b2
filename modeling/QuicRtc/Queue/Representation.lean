import Mathlib.Algebra.GroupWithZero.Nat
import Mathlib.Data.UInt
import QuicRtc.Lib.Transition
import QuicRtc.Queue

/-!
# What a queue represents

The amount of a queue is kept up to date by `push` and `pop`; `exchange` replaces the first element
without it. Along every run the queue holds the elements that entered and have not left, and its
amount is the sum over them as long as `exchange` puts in elements of the same amount.

* `Represents`: the amount, the limit, the order, and the stop flag.
* `Represents.step`: every call preserves it, when `exchange` keeps the amount of the head.
* `represents_iff_meets`: the exact condition on whole runs.
-/

namespace Rtc.Queue

variable {α : Type}

/-! ## Runs -/

/-- A call on a queue. -/
inductive Call (α : Type) where
  | push (element : α)
  | pop
  | peek
  | exchange (element : α)
  | stop
  deriving DecidableEq, Repr

/-- A queue with its history: the elements that entered before it was stopped, in order, where
`exchange` replaces the one at the head; and those that left. -/
structure World (α : Type) where
  queue : Queue α
  entered : List α := []
  left : List α := []
  stopped : Bool := false

/-- A new queue. -/
def World.start (limit : ℕ) (amountFunction : α → ℕ) : World α where
  queue := { mLimit := limit, mAmountFunction := amountFunction }

namespace World

variable {w w' : World α} {limit : ℕ} {amountFunction : α → ℕ}

/-- Execute a call; `none` where `push` would wait. -/
def step (w : World α) : Call α → Option (World α)
  | .push element =>
    if w.queue.canPush then
      some { w with
        queue := w.queue.push element
        entered := if w.stopped then w.entered else w.entered ++ [element] }
    else none
  | .pop =>
    some { w with queue := w.queue.pop.2, left := w.left ++ w.queue.pop.1.toList }
  | .peek => some w
  | .exchange element =>
    some { w with
      queue := (w.queue.exchange element).2
      entered := w.entered.set w.left.length element }
  | .stop => some { w with queue := w.queue.stop, stopped := true }

/-- The sum of the amounts of the elements, as a `size_t`. -/
def total (amountFunction : α → ℕ) (elements : List α) : UInt64 :=
  .ofNat (elements.map amountFunction).sum

/-- `amount()` is the sum over the elements, the limit is kept, the elements that left and those in
the queue are those that entered, and a stopped queue takes no element. -/
structure Represents (limit : ℕ) (amountFunction : α → ℕ) (w : World α) : Prop where
  mLimit : w.queue.mLimit = limit
  mAmountFunction : w.queue.mAmountFunction = amountFunction
  amount : w.queue.mAmount = total amountFunction w.queue.mQueue
  bounded : limit ≠ 0 → w.queue.mQueue.length ≤ limit
  order : w.left ++ w.queue.mQueue = w.entered
  stopped : w.queue.mStopping = w.stopped
  closed : w.stopped = true → ∀ element, w.queue.push element = w.queue

/-- An element that replaces the head has its amount. -/
def KeepsAmount (amountFunction : α → ℕ) (w : World α) : Call α → Prop
  | .exchange element => ∀ front ∈ w.queue.mQueue.head?,
    UInt64.ofNat (amountFunction element) = .ofNat (amountFunction front)
  | _ => True

instance (amountFunction : α → ℕ) (w : World α) : DecidablePred (KeepsAmount amountFunction w)
  | .push _ => isTrue trivial
  | .pop => isTrue trivial
  | .peek => isTrue trivial
  | .exchange element => inferInstanceAs (Decidable (∀ front ∈ w.queue.mQueue.head?,
    UInt64.ofNat (amountFunction element) = .ofNat (amountFunction front)))
  | .stop => isTrue trivial

theorem total_cons (element : α) (elements : List α) :
    total amountFunction (element :: elements) =
      .ofNat (amountFunction element) + total amountFunction elements := by
  rw [total, total, List.map_cons, List.sum_cons, UInt64.ofNat_add]

theorem total_append_singleton (elements : List α) (element : α) :
    total amountFunction (elements ++ [element]) =
      total amountFunction elements + .ofNat (amountFunction element) := by
  rw [total, total, List.map_append, List.sum_append, UInt64.ofNat_add, List.map_singleton,
    List.sum_singleton]

namespace Represents

theorem start : Represents limit amountFunction (World.start limit amountFunction) where
  mLimit := rfl
  mAmountFunction := rfl
  amount := rfl
  bounded := fun _ => Nat.zero_le _
  order := rfl
  stopped := rfl
  closed := nofun

theorem push (h : Represents limit amountFunction w) {element : α}
    (hroom : w.queue.canPush = true) :
    Represents limit amountFunction
      { w with
        queue := w.queue.push element
        entered := if w.stopped then w.entered else w.entered ++ [element] } := by
  by_cases hstopped : w.stopped = true
  · -- a stopped queue takes nothing
    rw [h.closed hstopped, if_pos hstopped]
    exact h
  · have hrunning : w.queue.mStopping = false :=
      h.stopped.trans (Bool.eq_false_of_not_eq_true hstopped)
    rw [Queue.push, if_neg (by simp [hrunning]), if_neg hstopped]
    refine ⟨h.mLimit, h.mAmountFunction, ?_, fun hlimit => ?_, ?_, h.stopped,
      fun h => absurd h hstopped⟩
    · show w.queue.mAmount + .ofNat (w.queue.mAmountFunction element) = _
      rw [h.amount, h.mAmountFunction]
      exact (total_append_singleton _ _).symm
    · -- `push` has waited for room
      simp only [canPush, hrunning, Bool.or_false, Bool.or_eq_true, decide_eq_true_eq,
        h.mLimit] at hroom
      show (w.queue.mQueue ++ [element]).length ≤ limit
      rw [List.length_append, List.length_singleton]
      omega
    · show w.left ++ (w.queue.mQueue ++ [element]) = w.entered ++ [element]
      rw [← List.append_assoc, h.order]

theorem pop (h : Represents limit amountFunction w) :
    Represents limit amountFunction
      { w with queue := w.queue.pop.2, left := w.left ++ w.queue.pop.1.toList } := by
  obtain ⟨queue, entered, left, stopped⟩ := w
  unfold Queue.pop
  cases hqueue : queue.mQueue with
  | nil =>
    rw [show left ++ (none : Option α).toList = left from List.append_nil left]
    exact h
  | cons front rest =>
    have hamount := h.amount
    have hbounded := h.bounded
    have horder := h.order
    simp only [hqueue] at hamount hbounded horder
    refine ⟨h.mLimit, h.mAmountFunction, ?_, fun hlimit => ?_, ?_, h.stopped, fun hstopped => ?_⟩
    · show queue.mAmount - .ofNat (queue.mAmountFunction front) = _
      rw [hamount, show queue.mAmountFunction = amountFunction from h.mAmountFunction, total_cons,
        UInt64.add_comm, UInt64.add_sub_cancel]
    · exact (Nat.le_succ _).trans (hbounded hlimit)
    · show left ++ [front] ++ rest = entered
      rw [List.append_assoc]
      exact horder
    · intro element
      refine push_of_stopping ?_ element
      exact h.stopped.trans hstopped

theorem exchange (h : Represents limit amountFunction w) {element : α}
    (hkeeps : KeepsAmount amountFunction w (.exchange element)) :
    Represents limit amountFunction
      { w with
        queue := (w.queue.exchange element).2
        entered := w.entered.set w.left.length element } := by
  obtain ⟨queue, entered, left, stopped⟩ := w
  have horder := h.order
  unfold Queue.exchange
  cases hqueue : queue.mQueue with
  | nil =>
    -- no element is at the head
    simp only [hqueue, List.append_nil] at horder
    have hset : entered.set left.length element = entered := by
      rw [horder, List.set_eq_of_length_le (le_refl _)]
    rw [hset]
    exact h
  | cons front rest =>
    have hamount := h.amount
    have hbounded := h.bounded
    simp only [hqueue] at hamount hbounded horder
    refine ⟨h.mLimit, h.mAmountFunction, ?_, hbounded, ?_, h.stopped, fun hstopped => ?_⟩
    · -- `mAmount` is not written, so the new head must count as much as the old one
      have hsame := hkeeps front (by rw [hqueue]; rfl)
      show queue.mAmount = total amountFunction (element :: rest)
      rw [hamount, total_cons, total_cons, hsame]
    · show left ++ element :: rest = entered.set left.length element
      rw [← horder, List.set_append_right _ _ (le_refl _), Nat.sub_self, List.set_cons_zero]
    · intro element'
      refine push_of_stopping ?_ element'
      exact h.stopped.trans hstopped

theorem stop (h : Represents limit amountFunction w) :
    Represents limit amountFunction { w with queue := w.queue.stop, stopped := true } :=
  { h with
    stopped := rfl
    closed := fun _ => push_of_stopping rfl }

/-- Every call preserves what the queue represents, when `exchange` keeps the amount of the head. -/
theorem step {call : Call α} (h : Represents limit amountFunction w)
    (hkeeps : KeepsAmount amountFunction w call) (hstep : w.step call = some w') :
    Represents limit amountFunction w' := by
  cases call with
  | push element =>
    obtain ⟨hroom, hpush⟩ := Option.ite_none_right_eq_some.1 hstep
    obtain rfl := Option.some.inj hpush
    exact h.push hroom
  | pop =>
    obtain rfl := Option.some.inj hstep
    exact h.pop
  | peek =>
    obtain rfl := Option.some.inj hstep
    exact h
  | exchange element =>
    obtain rfl := Option.some.inj hstep
    exact h.exchange hkeeps
  | stop =>
    obtain rfl := Option.some.inj hstep
    exact h.stop

/-- An element with another amount in place of the head is not counted. -/
theorem not_step {call : Call α} (h : Represents limit amountFunction w)
    (hmiss : ¬KeepsAmount amountFunction w call) (hstep : w.step call = some w') :
    ¬Represents limit amountFunction w' := by
  cases call with
  | push element => exact absurd trivial hmiss
  | pop => exact absurd trivial hmiss
  | peek => exact absurd trivial hmiss
  | stop => exact absurd trivial hmiss
  | exchange element =>
    obtain rfl := Option.some.inj hstep
    intro h'
    refine hmiss fun front hfront => ?_
    obtain ⟨rest, hqueue⟩ := List.head?_eq_some_iff.1 hfront
    -- the same amount stands for two sums that differ in the head only
    have hbefore := h.amount
    have hafter := h'.amount
    simp only [Queue.exchange, hqueue, total_cons] at hbefore hafter
    exact (UInt64.add_left_inj _).1 (hafter.symm.trans hbefore)

end Represents

/-- **Queue representation.** Along a run the queue represents what it should exactly when every
`exchange` keeps the amount of the head. -/
theorem represents_iff_meets {calls : List (Call α)} {w : World α}
    (hrun : Transition.run step (start limit amountFunction) calls = some w) :
    (∀ fs, fs <+: calls → ∀ u, Transition.run step (start limit amountFunction) fs = some u →
        Represents limit amountFunction u) ↔
      Transition.Meets step (KeepsAmount amountFunction) (start limit amountFunction) calls :=
  Transition.forall_prefix_iff_meets (fun _ _ _ h hkeeps hstep => h.step hkeeps hstep)
    (fun _ _ _ h hmiss hstep => h.not_step hmiss hstep) Represents.start hrun

/-- Buffers in a queue of at most two: one is replaced by another of its length, and leaves. -/
def bufferCalls : List (Call (List UInt8)) :=
  [.push [1, 2, 3], .push [4], .exchange [5, 6, 7], .peek, .pop, .stop, .push [8], .pop]

theorem represents_bufferCalls :
    ∃ w, Transition.run step (start 2 List.length) bufferCalls = some w ∧
      Represents 2 List.length w ∧ w.left = [[5, 6, 7], [4]] ∧ w.queue.mAmount = 0 := by
  have hkeeps : Transition.Meets step (KeepsAmount List.length) (start 2 List.length)
      bufferCalls := by
    decide
  exact ⟨_, rfl, (represents_iff_meets rfl).2 hkeeps _ (List.prefix_refl _) _ rfl, rfl, rfl⟩

/-- A buffer of three bytes is replaced by one byte: the amount stays three. -/
theorem not_represents_exchange :
    ¬∀ (limit : ℕ) (amountFunction : List UInt8 → ℕ) (calls : List (Call (List UInt8)))
      (w : World (List UInt8)),
      Transition.run step (start limit amountFunction) calls = some w →
        Represents limit amountFunction w := by
  intro h
  have hamount := (h 0 List.length [.push [1, 2, 3], .exchange [1]] _ rfl).amount
  exact absurd hamount (by decide)

end World

end Rtc.Queue
