import QuicRtc.QuicTransport.Spec

/-!
# Flush tasks of the QUIC transport

Every `send` increments `mPendingFlushCount`, only the one that raises it to `1` enqueues a flush
task, and a task decrements it once. If a `send` increments the counter while a task is pending, the
counter never returns to `0` and no later `send` enqueues a task. In every run without such a
`send`, the queue is always drained.

* `Drained`: the invariant.
* `drained_of_separate`: the property of whole runs in which the sends are separate.
* `two_sends_stall`: two sends before the task runs.
-/

namespace Rtc.QuicTransport

/-! ## Flush tasks -/

/-- A step changes the counter by at most one. -/
theorem natAbs_sub_mPendingFlushCount_le {w w' : World} {e : Event} (h : w.Takes e w') :
    (w'.transport.mPendingFlushCount - w.transport.mPendingFlushCount).natAbs ≤ 1 := by
  have hflush := (trySendQueue_frame w).2.1
  have hsame : ∀ count : ℤ, (count - count).natAbs ≤ 1 := by omega
  cases h with
  | enqueueFlush =>
    simp only [World.enqueueFlush]
    omega
  | doFlush htasks =>
    dsimp only
    omega
  | decrement htasks =>
    dsimp only
    omega
  | flush => omega
  -- the others leave it alone
  | _ => exact hsame _

/-- The counter stays in the range of `int` for a run of fewer than 2^31 steps: only `enqueueFlush`
and the end of a task change it, by one. -/
theorem mPendingFlushCount_bound {mConn : Option ℕ} {events : List Event} {w : World}
    (hrun : Transition.run World.step (World.init mConn) events = some w)
    (hlength : events.length < 2147483648) :
    -2147483648 < w.transport.mPendingFlushCount ∧
      w.transport.mPendingFlushCount < 2147483648 := by
  have hmoved := Transition.natAbs_sub_le_length
    (f := fun w : World => w.transport.mPendingFlushCount)
    (fun w e w' hstep => natAbs_sub_mPendingFlushCount_le (.of_step hstep)) hrun
  have hzero : (World.init mConn).transport.mPendingFlushCount = 0 := rfl
  omega

/-- Some task or call will look at the queue again: a flush task that has not called `trySendQueue`,
or a `send` that has pushed its message and has its increment still to make. -/
def FlushComing (w : World) : Prop := .queued ∈ w.tasks ∨ 0 < w.sending

instance (w : World) : Decidable (FlushComing w) := inferInstanceAs (Decidable (_ ∨ _))

/-- While a connection exists and the queue is not empty, the queue will be looked at again, and the
counter is `0` when there is no flush task. -/
structure Drained (w : World) : Prop where
  coming : w.transport.mState = .connected → w.transport.conn.isSome = true →
    w.transport.mSendQueue.mQueue ≠ [] → FlushComing w
  count : w.tasks = [] → w.transport.mPendingFlushCount = 0

/-- The sends are separate: a `send` increments the counter when it is `0`, that is with no flush
task pending. A connection comes when no message is left behind in the queue. -/
def SeparateSends (w : World) : Event → Prop
  | .enqueueFlush => w.transport.mPendingFlushCount = 0
  | .onNewConn _ => w.transport.mSendQueue.mQueue = [] ∨ FlushComing w
  | _ => True

instance (w : World) : DecidablePred (SeparateSends w)
  | .enqueueFlush => inferInstanceAs (Decidable (_ = _))
  | .onNewConn _ => inferInstanceAs (Decidable (_ ∨ _))
  | .start => isTrue trivial
  | .stop => isTrue trivial
  | .close => isTrue trivial
  | .push _ => isTrue trivial
  | .doFlush => isTrue trivial
  | .decrement => isTrue trivial
  | .flush => isTrue trivial
  | .closeStream _ => isTrue trivial
  | .sendReset _ => isTrue trivial
  | .onHskDone _ _ => isTrue trivial
  | .onConnClosed _ => isTrue trivial
  | .onNewStream _ => isTrue trivial
  | .onStreamClose _ => isTrue trivial

/-- The invariant of runs with separate sends. It does not depend on the state of the transport. -/
structure Separate (w : World) : Prop where
  coming : w.transport.conn.isSome = true → w.transport.mSendQueue.mQueue ≠ [] → FlushComing w
  count : w.transport.mPendingFlushCount = w.tasks.length
  shutdown : w.transport.mSendShutdown = false

namespace Separate

variable {w w' : World}

theorem init (mConn : Option ℕ) : Separate (World.init mConn) :=
  ⟨by simp [World.init], rfl, rfl⟩

/-- Steps that do not touch what the invariant looks at. -/
theorem of_frame (h : Separate w) (hconn : w'.transport.conn = w.transport.conn)
    (hqueue : w'.transport.mSendQueue = w.transport.mSendQueue)
    (hshutdown : w'.transport.mSendShutdown = w.transport.mSendShutdown)
    (hcount : w'.transport.mPendingFlushCount = w.transport.mPendingFlushCount)
    (htasks : w'.tasks = w.tasks) (hsending : w'.sending = w.sending) : Separate w' where
  coming := by
    rw [hconn, hqueue, FlushComing, htasks, hsending]
    exact h.coming
  count := by
    rw [hcount, htasks]
    exact h.count
  shutdown := hshutdown.trans h.shutdown

/-- `trySendQueue` empties the queue, if there is a connection. -/
theorem trySendQueue_empty (h : Separate w) (hconn : w.trySendQueue.transport.conn.isSome = true) :
    w.trySendQueue.transport.mSendQueue.mQueue = [] := by
  rcases trySendQueue_cases w with ⟨hsame, hqueue | hshutdown | hnone⟩ |
    ⟨c, mSendQueue, mBytesSent, -, -, hempty, heq⟩
  · rw [hsame]
    exact hqueue
  · rw [h.shutdown] at hshutdown
    cases hshutdown
  · rw [hsame, hnone] at hconn
    cases hconn
  · rw [heq]
    exact hempty

/-- `trySendQueue` by `flush` or by a flush task that goes on with `tasks`. -/
theorem trySendQueue (h : Separate w) {tasks : List FlushTask}
    (htasks : tasks.length = w.tasks.length) : Separate { w.trySendQueue with tasks } where
  coming := by
    intro hconn hqueue
    exact absurd (h.trySendQueue_empty hconn) hqueue
  count := by
    dsimp only
    rw [(trySendQueue_frame w).2.1, h.count, htasks]
  shutdown := (trySendQueue_frame w).1.trans h.shutdown

/-- Every step preserves the invariant, provided that the sends are separate. -/
theorem step {e : Event} (h : Separate w) (hok : SeparateSends w e) (hstep : w.Takes e w') :
    Separate w' := by
  cases hstep with
  | start => exact h.of_frame rfl rfl rfl rfl rfl rfl
  | startAgain => exact h
  | stop => exact h.of_frame rfl rfl rfl rfl rfl rfl
  | close => exact h.of_frame rfl rfl rfl rfl rfl rfl
  -- the call that has pushed its message will enqueue a flush
  | push => exact ⟨fun _ _ => Or.inr (Nat.succ_pos _), h.count, h.shutdown⟩
  | pushRefused => exact h
  | enqueueFlush =>
    -- the increment is the one that enqueues a task
    have hzero : w.transport.mPendingFlushCount = 0 := hok
    have hcount := h.count
    refine ⟨fun _ _ => Or.inl ?_, ?_, h.shutdown⟩
    · simp [World.enqueueFlush, hzero]
    · have hone : w.transport.mPendingFlushCount + 1 = 1 := by omega
      simp only [World.enqueueFlush, hone, if_true, List.length_append, List.length_singleton]
      omega
  | doFlush htasks => exact h.trySendQueue (by simp [htasks])
  | decrement htasks =>
    have hcount := h.count
    rw [htasks, List.length_cons] at hcount
    refine ⟨fun hconn hqueue => ?_, ?_, h.shutdown⟩
    · -- the task that goes away has looked at the queue already
      rcases h.coming hconn hqueue with hmem | hsending
      · rw [htasks] at hmem
        exact Or.inl (by simpa using hmem)
      · exact Or.inr hsending
    · dsimp only
      omega
  | flush =>
    have htasks := congrArg List.length (trySendQueue_frame w).2.2
    exact h.trySendQueue htasks
  | closeStream hfound => exact h.of_frame rfl rfl rfl rfl rfl rfl
  | closeStreamUnknown => exact h
  | sendReset hfound => exact h.of_frame rfl rfl rfl rfl rfl rfl
  | sendResetUnknown hnone => exact h
  | onNewConn =>
    -- the messages of a queue that nobody looks at would have to wait for the next send
    refine ⟨fun _ hqueue => ?_, h.count, h.shutdown⟩
    rcases hok with hempty | hcoming
    · exact absurd hempty hqueue
    · exact hcoming
  | onHskDone hconn => exact h.of_frame rfl rfl rfl rfl rfl rfl
  | onConnClosed => exact h.of_frame rfl rfl rfl rfl rfl rfl
  | onNewStream hnew => exact h.of_frame rfl rfl rfl rfl rfl rfl
  | onStreamClose => exact h.of_frame rfl rfl rfl rfl rfl rfl

end Separate

/-- In every run in which the sends are separate: whenever the state is `Connected`, a connection
exists and the queue is not empty, a flush task or a `send` in progress will look at the queue
again; and the counter is `0` when there is no flush task. -/
theorem drained_of_separate {mConn : Option ℕ} {events : List Event} {w : World}
    (hrun : Transition.run World.step (World.init mConn) events = some w)
    (hok : Transition.Meets World.step SeparateSends (World.init mConn) events) :
    Drained w := by
  have h : Separate w := Transition.run_invariant
    (fun _ _ _ hw hstepOk hstep => hw.step hstepOk (.of_step hstep)) (Separate.init mConn) hok hrun
  -- the invariant does not need the state to be `Connected`
  refine ⟨fun _ => h.coming, fun htasks => ?_⟩
  rw [h.count, htasks]
  rfl

/-- A one-byte user message. -/
def byteMessage (byte : UInt8) : Message := { data := [byte], type := .binary }

/-- Two sends, each flushed before the next one counts itself; the second pushes its message while
the first task is running. -/
def separateEvents : List Event :=
  [.onNewConn 7, .push (byteMessage 1), .enqueueFlush, .doFlush, .push (byteMessage 2), .decrement,
    .enqueueFlush, .doFlush, .decrement, .push (byteMessage 3), .enqueueFlush]

theorem drained_of_separate_separateEvents :
    ∃ w, Transition.run World.step (World.init none) separateEvents = some w ∧
      Transition.Meets World.step SeparateSends (World.init none) separateEvents ∧
      w.transport.mState = .connected ∧ w.transport.conn = some 7 ∧
      w.transport.mSendQueue.mQueue = [byteMessage 3] ∧ Drained w := by
  have hok : Transition.Meets World.step SeparateSends (World.init none) separateEvents := by
    decide
  exact ⟨_, rfl, hok, rfl, rfl, rfl, drained_of_separate rfl hok⟩

/-- Two sends before the task runs: the task takes the counter back to `1`, and the message of a
third `send` stays in the queue with no flush task. -/
theorem two_sends_stall :
    ∃ w, Transition.run World.step (World.init none)
        [.onNewConn 7, .push (byteMessage 1), .enqueueFlush, .push (byteMessage 2), .enqueueFlush,
          .doFlush, .decrement, .push (byteMessage 3), .enqueueFlush] = some w ∧
      w.transport.mState = .connected ∧ w.transport.conn = some 7 ∧
      w.transport.mSendQueue.mQueue = [byteMessage 3] ∧
      w.tasks = [] ∧ w.sending = 0 ∧ w.transport.mPendingFlushCount = 2 ∧ ¬Drained w := by
  refine ⟨_, rfl, rfl, rfl, rfl, rfl, rfl, rfl, fun h => ?_⟩
  have hcount := h.count rfl
  revert hcount
  decide

end Rtc.QuicTransport
