import Mathlib.Data.Int.Notation
import Mathlib.Data.List.Basic
import QuicRtc.Lib.Transition

/-!
# Receive and flush schedulers

`SctpTransport::enqueueRecv`, `SctpTransport::enqueueFlush` and `DtlsTransport::enqueueRecv` share
one scheme to schedule a task (`doRecv` or `doFlush`). A call reads the counter of pending tasks and
returns if it is positive; otherwise it increments the counter and enqueues the task. The task locks
its mutex, decrements the counter and then processes everything there is.

The test, the increment and the `enqueue` are separate steps of a call, so several calls may pass
the test together. The retransmission timer of DTLS runs `doRecv` without having incremented the
counter, which may therefore become negative.

* `State`: the counter, the calls and the timers of one such scheduler. Calls are numbered by their
  position in `calls`, and the task of a call has the number of the call.
* `Counted`: the counter is at most the number of tasks that are still to decrement it.
* `no_lost_wakeup`: after the test of a call some task is still to run.

The counter is an `atomic<int>`, which wraps around, and an integer here. By `mPendingCount_bound`
the two are the same in every run of fewer than 2^31 steps. Later, only timers that outnumber the
calls by 2^31 make it wrap.
-/

namespace Rtc.TaskScheduler

/-- How far a call, and then the task it enqueues, has come. -/
inductive Phase where
  /-- The counter was positive: the call has returned. -/
  | skipped
  /-- The counter was not positive: the call is about to increment it. -/
  | tested
  /-- The counter is incremented: the call is about to enqueue the task. -/
  | counted
  /-- The task is queued, on the processor of the transport or in the thread pool. -/
  | queued
  /-- The task has the mutex and has decremented the counter. -/
  | processing
  | finished
  deriving DecidableEq, Repr

/-- The task of a call is queued, or will be by the call in progress. -/
def Phase.pending : Phase → Bool
  | .tested => true
  | .counted => true
  | .queued => true
  | .skipped => false
  | .processing => false
  | .finished => false

/-- The increment of a call has been made and the decrement of its task has not. -/
def Phase.committed : Phase → Bool
  | .counted => true
  | .queued => true
  | .skipped => false
  | .tested => false
  | .processing => false
  | .finished => false

/-- Who holds the mutex of the task. -/
inductive Holder where
  | task
  | timer
  deriving DecidableEq, Repr

/-- The state of a scheduler. -/
structure State where
  /-- Whether there is a timer, which only DTLS has. -/
  hasTimer : Bool
  /-- `mPendingRecvCount` or `mPendingFlushCount`. -/
  mPendingCount : ℤ := 0
  calls : List Phase := []
  /-- The number of timer tasks scheduled in the thread pool. -/
  timers : ℕ := 0
  /-- The holder of `mRecvMutex` or `mSendMutex`. -/
  mutex : Option Holder := none
  deriving DecidableEq, Repr

/-- The atomic steps of the threads. -/
inductive Event where
  /-- A new call tests the counter. -/
  | test
  | increment (c : ℕ)
  | enqueue (c : ℕ)
  /-- The task of a call starts: it locks the mutex and decrements the counter. -/
  | run (c : ℕ)
  /-- The task of a call ends. A handshake in progress schedules a timer. -/
  | finish (c : ℕ) (timer : Bool)
  /-- `DtlsTransport::start` schedules the first timer. -/
  | setTimer
  /-- A timer expires and runs `doRecv`. -/
  | timerRun
  | timerFinish (timer : Bool)
  deriving DecidableEq, Repr

namespace State

/-- Schedule a timer if asked to; only DTLS does. -/
def schedule (s : State) (timer : Bool) : Option State :=
  if timer then if s.hasTimer then some { s with timers := s.timers + 1 } else none else some s

/-- Move a call from one phase to another. -/
def advance (s : State) (c : ℕ) (before after : Phase) : Option State :=
  if s.calls[c]? = some before then some { s with calls := s.calls.set c after } else none

/-- One step of one thread. -/
def step (s : State) : Event → Option State
  | .test =>
    -- the counter is read here and incremented in a later step
    some { s with calls := s.calls ++ [if s.mPendingCount > 0 then .skipped else .tested] }
  | .increment c =>
    (s.advance c .tested .counted).map fun s => { s with mPendingCount := s.mPendingCount + 1 }
  | .enqueue c => s.advance c .counted .queued
  | .run c =>
    if s.mutex.isSome then none
    else
      -- the mutex is held from here to the end of the task
      (s.advance c .queued .processing).map fun s =>
        { s with mutex := some .task, mPendingCount := s.mPendingCount - 1 }
  | .finish c timer =>
    (s.advance c .processing .finished).bind fun s => { s with mutex := none }.schedule timer
  | .setTimer => s.schedule true
  | .timerRun =>
    if s.mutex.isSome ∨ s.timers = 0 then none
    else
      some
        { s with
          timers := s.timers - 1
          mutex := some .timer
          -- `doRecv` decrements a count that the timer did not make
          mPendingCount := s.mPendingCount - 1 }
  | .timerFinish timer =>
    if s.mutex = some .timer then { s with mutex := none }.schedule timer else none

end State

/-! ## The counter -/

/-- The invariant: the counter is at most the number of committed tasks. -/
def Counted (s : State) : Prop := s.mPendingCount ≤ s.calls.countP Phase.committed

/-- A scheduled timer only changes the number of timers. -/
theorem schedule_cases {s s' : State} {timer : Bool} (h : s.schedule timer = some s') :
    s'.mPendingCount = s.mPendingCount ∧ s'.calls = s.calls := by
  unfold State.schedule at h
  split at h
  · simp only [Option.ite_none_right_eq_some, Option.some.injEq] at h
    obtain ⟨-, rfl⟩ := h
    exact ⟨rfl, rfl⟩
  · cases h
    exact ⟨rfl, rfl⟩

/-- A call that advances: the phases of the other calls and the counter stay. -/
theorem advance_eq_some {s s' : State} {c : ℕ} {before after : Phase} :
    s.advance c before after = some s' ↔
      s.calls[c]? = some before ∧ s' = { s with calls := s.calls.set c after } := by
  simp [State.advance, eq_comm]

/-- A step changes the counter by at most one. -/
theorem natAbs_sub_mPendingCount_le {s s' : State} {e : Event} (h : s.step e = some s') :
    (s'.mPendingCount - s.mPendingCount).natAbs ≤ 1 := by
  have hadvance : ∀ {c s₁ before after}, s.advance c before after = some s₁ →
      s₁.mPendingCount = s.mPendingCount := by
    intro c s₁ before after hadvance
    rw [(advance_eq_some.1 hadvance).2]
  cases e with
  | test =>
    cases h
    simp
  | increment c =>
    obtain ⟨s₁, hs₁, rfl⟩ := Option.map_eq_some_iff.1 h
    have hsame := hadvance hs₁
    dsimp only
    omega
  | enqueue c =>
    have hsame := hadvance h
    omega
  | run c =>
    simp only [State.step, Option.ite_none_left_eq_some] at h
    obtain ⟨s₁, hs₁, rfl⟩ := Option.map_eq_some_iff.1 h.2
    have hsame := hadvance hs₁
    dsimp only
    omega
  | finish c timer =>
    obtain ⟨s₁, hs₁, hschedule⟩ := Option.bind_eq_some_iff.1 h
    have hsame := hadvance hs₁
    have hschedule' := (schedule_cases hschedule).1
    dsimp only at hschedule'
    omega
  | setTimer =>
    have hsame := (schedule_cases h).1
    omega
  | timerRun =>
    simp only [State.step, Option.ite_none_left_eq_some, Option.some.injEq] at h
    obtain ⟨-, rfl⟩ := h
    dsimp only
    omega
  | timerFinish timer =>
    simp only [State.step, Option.ite_none_right_eq_some] at h
    have hsame := (schedule_cases h.2).1
    dsimp only at hsame
    omega

/-- The counter stays in the range of `int` for a run of fewer than 2^31 steps. -/
theorem mPendingCount_bound {hasTimer : Bool} {events : List Event} {s : State}
    (hrun : Transition.run State.step { hasTimer } events = some s)
    (hlength : events.length < 2147483648) :
    -2147483648 < s.mPendingCount ∧ s.mPendingCount < 2147483648 := by
  have hmoved := Transition.natAbs_sub_le_length (f := State.mPendingCount)
    (fun _ _ _ hstep => natAbs_sub_mPendingCount_le hstep) hrun
  dsimp only at hmoved
  omega

/-- The number of committed tasks when a call advances. -/
theorem countP_advance {s s' : State} {c : ℕ} {before after : Phase}
    (h : s.advance c before after = some s') :
    s'.mPendingCount = s.mPendingCount ∧
      s'.calls.countP Phase.committed + (if before.committed then 1 else 0) =
        s.calls.countP Phase.committed + (if after.committed then 1 else 0) := by
  obtain ⟨hphase, rfl⟩ := advance_eq_some.1 h
  refine ⟨rfl, ?_⟩
  obtain ⟨hlt, rfl⟩ := List.getElem?_eq_some_iff.1 hphase
  rw [List.countP_set hlt]
  -- `countP` goes down by one if the old phase was counted
  by_cases hcommitted : s.calls[c].committed
  · have hpos : 0 < s.calls.countP Phase.committed :=
      List.countP_pos_iff.2 ⟨s.calls[c], List.getElem_mem hlt, hcommitted⟩
    simp only [hcommitted, if_true]
    omega
  · simp [hcommitted]

namespace Counted

variable {s s' : State}

theorem start (hasTimer : Bool) : Counted { hasTimer } := by
  simp [Counted]

/-- Only an increment raises the counter, and it commits a task. -/
theorem step (h : Counted s) {e : Event} (hstep : s.step e = some s') : Counted s' := by
  unfold Counted at h ⊢
  cases e with
  | test =>
    cases hstep
    -- a call that has only tested the counter is not committed
    simp only [List.countP_append, List.countP_singleton]
    omega
  | increment c =>
    obtain ⟨s₁, hadvance, rfl⟩ := Option.map_eq_some_iff.1 hstep
    obtain ⟨hsame, hcount⟩ := countP_advance hadvance
    simp only [Phase.committed, if_true, Bool.false_eq_true, if_false] at hcount
    dsimp only
    omega
  | enqueue c =>
    obtain ⟨hsame, hcount⟩ := countP_advance hstep
    -- committed before and after
    simp only [Phase.committed, if_true] at hcount
    omega
  | run c =>
    simp only [State.step, Option.ite_none_left_eq_some] at hstep
    obtain ⟨s₁, hadvance, rfl⟩ := Option.map_eq_some_iff.1 hstep.2
    obtain ⟨hsame, hcount⟩ := countP_advance hadvance
    simp only [Phase.committed, if_true, Bool.false_eq_true, if_false] at hcount
    dsimp only
    omega
  | finish c timer =>
    obtain ⟨s₁, hadvance, hschedule⟩ := Option.bind_eq_some_iff.1 hstep
    obtain ⟨hsame, hcount⟩ := countP_advance hadvance
    obtain ⟨hsame', hcalls⟩ := schedule_cases hschedule
    simp only [Phase.committed, Bool.false_eq_true, if_false] at hcount
    rw [hsame', hcalls]
    dsimp only
    omega
  | setTimer =>
    obtain ⟨hsame, hcalls⟩ := schedule_cases hstep
    rwa [hsame, hcalls]
  | timerRun =>
    simp only [State.step, Option.ite_none_left_eq_some, Option.some.injEq] at hstep
    -- the bound is an upper one, so the decrement of a timer does no harm
    obtain ⟨-, rfl⟩ := hstep
    dsimp only
    omega
  | timerFinish timer =>
    simp only [State.step, Option.ite_none_right_eq_some] at hstep
    obtain ⟨hsame, hcalls⟩ := schedule_cases hstep.2
    rwa [hsame, hcalls]

/-- The key fact: a positive counter means that a task has been counted and is still to run. -/
theorem exists_committed (h : Counted s) (hpos : 0 < s.mPendingCount) :
    ∃ (c : ℕ) (phase : Phase), s.calls[c]? = some phase ∧ phase.committed = true := by
  have hcount : 0 < s.calls.countP Phase.committed := by
    unfold Counted at h
    omega
  obtain ⟨phase, hmem, hcommitted⟩ := List.countP_pos_iff.1 hcount
  obtain ⟨c, hc⟩ := List.mem_iff_getElem?.1 hmem
  exact ⟨c, phase, hc, hcommitted⟩

end Counted

/-! ## Tasks that are still to run -/

/-- The task of the call `c` is queued, or will be by the call in progress, and has not decremented
the counter. -/
def Pending (s : State) (c : ℕ) : Prop :=
  ∃ phase, s.calls[c]? = some phase ∧ phase.pending = true

/-- The phase of `c` after some call has advanced. -/
theorem getElem?_advance {s s' : State} {c c' : ℕ} {before after : Phase}
    (h : s.advance c' before after = some s') :
    s'.calls[c]? = if c' = c then some after else s.calls[c]? := by
  obtain ⟨hphase, rfl⟩ := advance_eq_some.1 h
  have hlt := (List.getElem?_eq_some_iff.1 hphase).1
  by_cases hc : c' = c
  · subst hc
    simp [hlt]
  · simp [hc]

/-- A task stays pending until it runs. -/
theorem Pending.step {s s' : State} {c : ℕ} (h : Pending s c) {e : Event}
    (hstep : s.step e = some s') (hrun : e ≠ .run c) : Pending s' c := by
  obtain ⟨phase, hphase, hpending⟩ := h
  -- a call that advances from `before` to a pending phase is pending, and the others stay
  have hadvance : ∀ {c' s₁ before after}, s.advance c' before after = some s₁ →
      (c' = c → before.pending = true → after.pending = true) → Pending s₁ c := by
    intro c' s₁ before after hadvance hafter
    have hget : s₁.calls[c]? = _ := getElem?_advance hadvance
    by_cases hc : c' = c
    · subst hc
      have hbefore := (advance_eq_some.1 hadvance).1
      obtain rfl : before = phase := Option.some.inj (hbefore.symm.trans hphase)
      exact ⟨after, by simpa using hget, hafter rfl hpending⟩
    · exact ⟨phase, (hget.trans (if_neg hc)).trans hphase, hpending⟩
  cases e with
  | test =>
    cases hstep
    have hlt := (List.getElem?_eq_some_iff.1 hphase).1
    exact ⟨phase, by simpa [List.getElem?_append_left hlt] using hphase, hpending⟩
  | increment c' =>
    obtain ⟨s₁, hs₁, rfl⟩ := Option.map_eq_some_iff.1 hstep
    have hs₁ : Pending s₁ c := hadvance hs₁ fun _ _ => rfl
    exact hs₁
  | enqueue c' => exact hadvance hstep fun _ _ => rfl
  | run c' =>
    simp only [State.step, Option.ite_none_left_eq_some] at hstep
    obtain ⟨s₁, hs₁, rfl⟩ := Option.map_eq_some_iff.1 hstep.2
    -- the task that runs is another one
    have hs₁ : Pending s₁ c := hadvance hs₁ fun hc => absurd (by rw [hc]) hrun
    exact hs₁
  | finish c' timer =>
    obtain ⟨s₁, hs₁, hschedule⟩ := Option.bind_eq_some_iff.1 hstep
    -- a task that ends was not pending
    have hs₁ : Pending s₁ c := hadvance hs₁ fun _ hbefore => by cases hbefore
    rw [Pending, (schedule_cases hschedule).2]
    exact hs₁
  | setTimer =>
    rw [Pending, (schedule_cases hstep).2]
    exact ⟨phase, hphase, hpending⟩
  | timerRun =>
    simp only [State.step, Option.ite_none_left_eq_some, Option.some.injEq] at hstep
    obtain ⟨-, rfl⟩ := hstep
    exact ⟨phase, hphase, hpending⟩
  | timerFinish timer =>
    simp only [State.step, Option.ite_none_right_eq_some] at hstep
    rw [Pending, (schedule_cases hstep.2).2]
    exact ⟨phase, hphase, hpending⟩

/-- A task stays pending along a run until it runs. -/
theorem Pending.run {s t : State} {c : ℕ} (h : Pending s c) {events : List Event}
    (hrun : Transition.run State.step s events = some t) : Pending t c ∨ .run c ∈ events := by
  induction events generalizing s with
  | nil =>
    obtain rfl : s = t := by simpa using hrun
    exact Or.inl h
  | cons e rest ih =>
    obtain ⟨s', hs', hrest⟩ := Transition.run_cons.1 hrun
    by_cases he : e = .run c
    · exact Or.inr (by simp [he])
    · rcases ih (h.step hs' he) hrest with hpending | hmem
      · exact Or.inl hpending
      · exact Or.inr (List.mem_cons_of_mem e hmem)

/-- The test of a call leaves a task that is still to run: its own, or one that made the counter
positive. -/
theorem pending_test {s s' : State} (h : Counted s) (hstep : s.step .test = some s') :
    ∃ c, Pending s' c := by
  cases hstep
  by_cases hpos : s.mPendingCount > 0
  · -- the call returns and leaves the work to a task that made the counter positive
    obtain ⟨c, phase, hphase, hcommitted⟩ := h.exists_committed hpos
    have hlt := (List.getElem?_eq_some_iff.1 hphase).1
    refine ⟨c, phase, by simpa [List.getElem?_append_left hlt] using hphase, ?_⟩
    cases phase <;> simp_all [Phase.committed, Phase.pending]
  · -- the call will enqueue its own task
    exact ⟨s.calls.length, .tested, by simp [hpos], rfl⟩

/-- In every interleaving of calls, tasks and timers:

* a positive counter means that the task of some call has been counted and is still to run;
* after the test of the counter by a call there is a task, queued or about to be queued by a call in
  progress, that has not decremented the counter, and it stays so until it does. -/
theorem no_lost_wakeup {hasTimer : Bool} {events : List Event} {s : State}
    (hrun : Transition.run State.step { hasTimer } events = some s) :
    (0 < s.mPendingCount →
        ∃ (c : ℕ) (phase : Phase), s.calls[c]? = some phase ∧ phase.committed = true) ∧
      ∀ s', s.step .test = some s' → ∃ c, Pending s' c ∧
        ∀ later t, Transition.run State.step s' later = some t → Pending t c ∨ .run c ∈ later := by
  have h : Counted s :=
    Transition.run_invariant_all (fun _ _ _ hs hstep => hs.step hstep) (Counted.start hasTimer) hrun
  refine ⟨h.exists_committed, fun s' hstep => ?_⟩
  obtain ⟨c, hpending⟩ := pending_test h hstep
  exact ⟨c, hpending, fun later t hlater => hpending.run hlater⟩

/-- A timer makes the counter negative. Two calls pass the test together; one of their tasks is run,
which leaves the counter negative again. -/
def timerEvents : List Event :=
  [.setTimer, .timerRun, .timerFinish true, .test, .test, .increment 0, .increment 1, .enqueue 1,
    .timerRun, .timerFinish false, .enqueue 0, .run 1, .finish 1 false]

theorem no_lost_wakeup_timerEvents :
    ∃ s, Transition.run State.step { hasTimer := true } timerEvents = some s ∧
      s.mPendingCount = -1 ∧
      ∃ s', s.step .test = some s' ∧ ∃ c, Pending s' c ∧
        ∀ later t, Transition.run State.step s' later = some t → Pending t c ∨ .run c ∈ later := by
  have hrun : ∃ s, Transition.run State.step { hasTimer := true } timerEvents = some s ∧
      s.mPendingCount = -1 := ⟨_, rfl, by decide⟩
  obtain ⟨s, hrun, hcount⟩ := hrun
  exact ⟨s, hrun, hcount, _, rfl, (no_lost_wakeup hrun).2 _ rfl⟩

end Rtc.TaskScheduler
