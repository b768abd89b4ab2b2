import Mathlib.Data.List.Basic

/-!
# Incremental consumers

A `Consumer` keeps input that it cannot process yet in its state. `push` adds input, and `round`
processes one unit of it, or returns `none` when the input does not suffice. The laws say that a
round which is possible stays possible, with the same effect, when more input is there already.

* `run`: rounds as long as one is possible.
* `run_push_run`: input that comes after a run has the effect of input that was there before.
* `feed_feed`: input fed in two pieces has the effect of the whole, wherever it is cut.
-/

/-- A state machine that takes its input in pieces. -/
structure Consumer (σ α : Type*) where
  push : List α → σ → σ
  round : σ → Option σ
  /-- The rounds that the input allows are fewer than this. -/
  pending : σ → ℕ
  pending_round : ∀ s s', round s = some s' → pending s' < pending s
  push_push : ∀ first second s, push second (push first s) = push (first ++ second) s
  round_push : ∀ input s s', round s = some s' → round (push input s) = some (push input s')

namespace Consumer

variable {σ α : Type*}

/-- Rounds, as long as one is possible. -/
def run (m : Consumer σ α) (s : σ) : σ :=
  match _h : m.round s with
  | none => s
  | some s' => run m s'
termination_by m.pending s
decreasing_by exact m.pending_round _ _ _h

/-- Add input and process it. -/
def feed (m : Consumer σ α) (s : σ) (input : List α) : σ := m.run (m.push input s)

variable {m : Consumer σ α}

theorem run_of_none {s : σ} (h : m.round s = none) : m.run s = s := by
  rw [run]
  split
  · rfl
  · next heq => simp [h] at heq

theorem run_of_some {s s' : σ} (h : m.round s = some s') : m.run s = m.run s' := by
  rw [run]
  split
  · next heq => simp [h] at heq
  · next heq => rw [Option.some.inj (h.symm.trans heq)]

variable (m : Consumer σ α)

/-- A run ends where no round is possible. -/
theorem round_run (s : σ) : m.round (m.run s) = none := by
  induction s using run.induct m with
  | case1 s h => rwa [run_of_none h]
  | case2 s s' h ih => rwa [run_of_some h]

/-- What every round keeps is kept by a run. -/
theorem run_invariant {P : σ → Prop} (hround : ∀ s s', P s → m.round s = some s' → P s') {s : σ}
    (hs : P s) : P (m.run s) := by
  induction s using run.induct m with
  | case1 s h => rwa [run_of_none h]
  | case2 s s' h ih =>
    rw [run_of_some h]
    exact ih (hround s s' hs h)

/-- Rounds before and after more input are the rounds on all of it. -/
theorem run_push_run (input : List α) (s : σ) :
    m.run (m.push input (m.run s)) = m.run (m.push input s) := by
  induction s using run.induct m with
  | case1 s h => rw [run_of_none h]
  | case2 s s' h ih => rw [run_of_some h, ih, run_of_some (m.round_push input s s' h)]

/-- Feeding a consumer in pieces is feeding it the whole input. -/
theorem feed_feed (s : σ) (first second : List α) :
    m.feed (m.feed s first) second = m.feed s (first ++ second) := by
  rw [feed, feed, run_push_run, m.push_push, feed]

end Consumer
