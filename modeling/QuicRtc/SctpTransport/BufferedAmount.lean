import Mathlib.Algebra.GroupWithZero.Nat
import QuicRtc.SctpTransport.Order

/-!
# Buffered amounts of the SCTP send path

`mBufferedAmount` is updated separately from the queue: after a `pop`, and after a `push`. On a
stopped queue `push` drops the message while `send` still counts it, so the amounts are right
exactly in the runs where no `send` reaches that branch with a message that counts.

* `Accounted`: the amounts and the last reported amounts are those of the queue.
* `Accounted.step`, `Accounted.not_step`: a step preserves it if it is `Counted`, and destroys it
  otherwise.
* `bufferedAmount_exact`: the property of whole runs.
-/

namespace Rtc.SctpTransport

/-- The bytes of user messages on a stream. -/
def queuedAmount (messages : List Message) (stream : ℕ) : ℕ :=
  ((messages.filter fun m => m.stream = stream).map messageSizeFunc).sum

/-- `mBufferedAmount[stream]`, `0` when absent. -/
def bufferedAmount (t : SctpTransport) (stream : ℕ) : ℕ := (t.mBufferedAmount stream).getD 0

/-- The last amount passed to the callback for a stream, `0` when there was none. -/
def lastReport (reports : List (ℕ × ℕ)) (stream : ℕ) : ℕ :=
  (((reports.filter fun report => report.1 = stream).getLast?).map Prod.snd).getD 0

/-- Every stream has the amount of its queued messages, and its last report is that amount. -/
def Accounted (w : World) : Prop :=
  ∀ stream ≤ 65535,
    bufferedAmount w.transport stream = queuedAmount w.transport.mSendQueue.mQueue stream ∧
      lastReport w.reports stream = bufferedAmount w.transport stream

/-- The step does not count a message it drops: when `send` is about to push on a stopped queue,
its message does not count, being empty, a control message or on no 16-bit stream. -/
def Counted (w : World) : Event → Prop
  | .next _ =>
    match w.stack with
    | .sendQueueing m :: _ =>
      w.transport.mSendQueue.mStopping = true → messageSizeFunc m = 0 ∨ 65535 < m.stream
    | _ => True
  | _ => True

instance (w : World) : DecidablePred (Counted w)
  | .next _ =>
    match hstack : w.stack with
    | .sendQueueing m :: _ =>
      decidable_of_iff
        (w.transport.mSendQueue.mStopping = true → messageSizeFunc m = 0 ∨ 65535 < m.stream)
        (by simp [Counted, hstack])
    | [] => isTrue (by simp [Counted, hstack])
    | .trySendQueue :: _ => isTrue (by simp [Counted, hstack])
    | .sendFlushing _ :: _ => isTrue (by simp [Counted, hstack])
    | .bufferedAmountCallback :: _ => isTrue (by simp [Counted, hstack])
  | .send _ => isTrue trivial
  | .closeStream _ => isTrue trivial
  | .flush => isTrue trivial
  | .doFlush => isTrue trivial
  | .close => isTrue trivial
  | .callbackReturn => isTrue trivial

/-! ## Amounts -/

@[simp]
theorem queuedAmount_nil (stream : ℕ) : queuedAmount [] stream = 0 := rfl

@[simp]
theorem queuedAmount_append (xs ys : List Message) (stream : ℕ) :
    queuedAmount (xs ++ ys) stream = queuedAmount xs stream + queuedAmount ys stream := by
  simp [queuedAmount]

theorem queuedAmount_cons (m : Message) (ms : List Message) (stream : ℕ) :
    queuedAmount (m :: ms) stream =
      (if stream = m.stream then messageSizeFunc m else 0) + queuedAmount ms stream := by
  by_cases h : stream = m.stream
  · simp [queuedAmount, h]
  · simp [queuedAmount, h, Ne.symm h]

/-- Reporting an amount makes it the last one of its stream. -/
theorem lastReport_append (reports : List (ℕ × ℕ)) (streamId amount stream : ℕ) :
    lastReport (reports ++ [(streamId, amount)]) stream =
      if stream = streamId then amount else lastReport reports stream := by
  by_cases h : stream = streamId
  · simp [lastReport, h]
  · simp [lastReport, h, Ne.symm h]

/-- `updateAmount` adds to one amount, which it clamps at zero and reports unless nothing is
added. -/
theorem updateAmount_amounts (w : World) (streamId : ℕ) (delta : ℤ) (stream : ℕ) :
    bufferedAmount (w.updateAmount streamId delta).transport stream =
        (if stream = streamId then
          (max (bufferedAmount w.transport stream + delta) 0).toNat
        else bufferedAmount w.transport stream) ∧
      lastReport (w.updateAmount streamId delta).reports stream =
        if stream = streamId ∧ delta ≠ 0 then
          (max (bufferedAmount w.transport stream + delta) 0).toNat
        else lastReport w.reports stream := by
  unfold World.updateAmount updateBufferedAmount
  by_cases hdelta : delta = 0
  · simp [hdelta]
  · by_cases hstream : stream = streamId
    · subst hstream
      simp only [hdelta, ↓reduceIte, lastReport_append, bufferedAmount, Function.update_self]
      -- an amount of zero erases the entry, which then reads as zero
      generalize (max (_ : ℤ) 0).toNat = amount
      by_cases hamount : amount = 0 <;> simp [hamount, hdelta]
    · simp [hdelta, hstream, lastReport_append, bufferedAmount]

namespace Accounted

variable {w : World}

theorem start (maxMessageSize : ℕ) : Accounted (World.start maxMessageSize) :=
  fun _ _ => ⟨rfl, rfl⟩

/-- The amounts follow the queue: if the queue of `w` has changed by `delta` on one stream,
`updateAmount` accounts for it. -/
theorem updateAmount (messages : List Message) {streamId : ℕ} {delta : ℤ}
    (h : ∀ stream ≤ 65535, bufferedAmount w.transport stream = queuedAmount messages stream ∧
      lastReport w.reports stream = bufferedAmount w.transport stream)
    (hqueue : ∀ stream, (queuedAmount w.transport.mSendQueue.mQueue stream : ℤ) =
      queuedAmount messages stream + if stream = streamId then delta else 0) :
    Accounted (w.updateAmount streamId delta) := by
  intro stream hstream
  obtain ⟨hamount, hreport⟩ := h stream hstream
  obtain ⟨hamount', hreport'⟩ := updateAmount_amounts w streamId delta stream
  have hchange := hqueue stream
  rw [hamount', hreport', (w.updateAmount_frame streamId delta).1]
  by_cases heq : stream = streamId
  · simp only [heq, true_and, ↓reduceIte] at hchange hamount hreport ⊢
    split <;> omega
  · simp only [heq, false_and, ↓reduceIte] at hchange ⊢
    omega

/-- One round of `trySendQueue`: a message that is popped is taken off the amounts. -/
theorem trySendQueue (h : Accounted w) (answer : Answer) : Accounted (w.trySendQueue answer) := by
  unfold World.trySendQueue
  split
  · have hflushed : Accounted (w.shutdownIfStopped answer.shutdown) := by
      unfold World.shutdownIfStopped
      split <;> exact h
    unfold World.returnFlushed
    split
    · unfold World.sendDirect
      split
      · exact hflushed
      · exact hflushed
      · next t output htry =>
        obtain ⟨-, bytesSent, rfl⟩ := trySendMessage_accepted htry
        exact hflushed
    · exact hflushed
  · next m hpeek =>
    obtain ⟨rest, hqueue⟩ := List.head?_eq_some_iff.1 hpeek
    split
    · exact h
    · exact h
    · next t output htry =>
      obtain ⟨-, bytesSent, rfl⟩ := trySendMessage_accepted htry
      split
      · next hstream =>
        -- the exception comes after the `pop`, of a message that is on none of the streams
        intro stream hle
        obtain ⟨hamount, hreport⟩ := h stream hle
        refine ⟨?_, hreport⟩
        have hne : stream ≠ m.stream := by
          rintro rfl
          rw [toUint16_natCast hle] at hstream
          cases hstream
        rw [hqueue, queuedAmount_cons, if_neg hne, Nat.zero_add] at hamount
        simpa [World.throw, hqueue, bufferedAmount] using hamount
      · next streamId hstream =>
        -- the head leaves the queue and its size the amount
        obtain ⟨rfl, -⟩ := toUint16_eq_ok_iff.1 hstream
        refine updateAmount w.transport.mSendQueue.mQueue h ?_
        intro stream
        simp only [Queue.mQueue_pop, hqueue, List.tail_cons, queuedAmount_cons]
        split <;> push_cast <;> omega

/-- `send` pushes its message on the running queue and adds it to the amounts. -/
theorem sendQueueing (h : Accounted w) {m : Message}
    (hcounted : w.transport.mSendQueue.mStopping = true →
      messageSizeFunc m = 0 ∨ 65535 < m.stream) : Accounted (w.sendQueueing m) := by
  unfold World.sendQueueing
  have hpush : ∀ stream, queuedAmount (w.transport.mSendQueue.push m).mQueue stream =
      queuedAmount w.transport.mSendQueue.mQueue stream +
        if stream = m.stream ∧ w.transport.mSendQueue.mStopping = false then messageSizeFunc m
        else 0 := by
    intro stream
    cases hstopping : w.transport.mSendQueue.mStopping with
    | false => simp [Queue.mQueue_push_of_running hstopping, queuedAmount_cons, queuedAmount_nil]
    | true => simp [Queue.push_of_stopping hstopping]
  split
  · next hstream =>
    intro stream hle
    obtain ⟨hamount, hreport⟩ := h stream hle
    refine ⟨?_, hreport⟩
    have hne : stream ≠ m.stream := by
      rintro rfl
      rw [toUint16_natCast hle] at hstream
      cases hstream
    simp only [World.throw, hpush, hne, false_and, ↓reduceIte, Nat.add_zero]
    exact hamount
  · next streamId hstream =>
    obtain ⟨rfl, hle⟩ := toUint16_eq_ok_iff.1 hstream
    refine updateAmount w.transport.mSendQueue.mQueue h ?_
    intro stream
    rw [hpush]
    cases hstopping : w.transport.mSendQueue.mStopping with
    | false =>
      simp only [and_true]
      split <;> push_cast <;> omega
    | true =>
      -- the stopped queue drops the message; that it does not count keeps the amounts right
      have hzero : messageSizeFunc m = 0 := (hcounted hstopping).resolve_right (by omega)
      simp [hzero]

/-- A message that counts and is dropped by the stopped queue is added to the amounts only. -/
theorem not_sendQueueing (h : Accounted w) {m : Message}
    (hstopping : w.transport.mSendQueue.mStopping = true) (hsize : messageSizeFunc m ≠ 0)
    (hstream : m.stream ≤ 65535) : ¬Accounted (w.sendQueueing m) := by
  intro hafter
  have hbefore := (h m.stream hstream).1
  have hamount := (hafter m.stream hstream).1
  unfold World.sendQueueing at hamount
  rw [toUint16_natCast hstream, Queue.push_of_stopping hstopping] at hamount
  simp only [(World.updateAmount_frame _ _ _).1, (updateAmount_amounts _ _ _ _).1,
    ↓reduceIte] at hamount
  rw [hbefore] at hamount
  omega

/-- `closeStream` queues a reset, which does not count. -/
theorem closeStream (h : Accounted w) (stream : ℕ) : Accounted (w.closeStream stream) := by
  unfold World.closeStream
  split
  · exact h
  · intro stream' hle
    obtain ⟨hamount, hreport⟩ := h stream' hle
    refine ⟨?_, hreport⟩
    simp only [Queue.push]
    split
    · exact hamount
    · rw [queuedAmount_append, queuedAmount_cons]
      simpa [messageSizeFunc, bufferedAmount] using hamount

/-- A step that is `Counted` preserves the property. -/
theorem step {e : Event} {w' : World} (h : Accounted w) (hok : Counted w e)
    (hstep : w.Takes e w') : Accounted w' := by
  cases hstep with
  | send =>
    -- the message is not in the queue yet
    unfold World.send
    repeat' split
    all_goals exact h
  | closeStream => exact h.closeStream _
  | flush => exact h
  | flushRefused => exact h
  | doFlush hstack => exact h
  | close =>
    unfold World.close
    dsimp only
    split <;> exact h
  | @trySendQueue answer rest hstack =>
    exact trySendQueue (w := { w with stack := rest }) h answer
  | @sendQueueing _ m rest hstack =>
    simp only [Counted, hstack] at hok
    exact sendQueueing (w := { w with stack := rest }) h hok
  | callbackReturn hstack => exact h

/-- A step that is not `Counted` destroys it. -/
theorem not_step {e : Event} {w' : World} (h : Accounted w) (hbad : ¬Counted w e)
    (hstep : w.step e = some w') : ¬Accounted w' := by
  -- the only step that can miss the condition is the push of a `send`
  unfold Counted at hbad
  split at hbad
  · split at hbad
    · next m rest hstack =>
      simp only [World.step, hstack, Option.some.injEq] at hstep
      subst hstep
      push Not at hbad
      obtain ⟨hstopping, hsize, hstream⟩ := hbad
      exact not_sendQueueing (w := { w with stack := rest }) h hstopping hsize (by omega)
    · exact absurd trivial hbad
  · exact absurd trivial hbad

end Accounted

/-! ## Whole runs -/

/-- All along a run, every stream has the amount of its queued messages and its last report is that
amount, exactly when no step of the run counts a message that it drops. -/
theorem bufferedAmount_exact {maxMessageSize : ℕ} {events : List Event} {w : World}
    (hrun : Transition.run World.step (World.start maxMessageSize) events = some w) :
    (∀ steps, steps <+: events → ∀ w',
        Transition.run World.step (World.start maxMessageSize) steps = some w' → Accounted w') ↔
      Transition.Meets World.step Counted (World.start maxMessageSize) events :=
  Transition.forall_prefix_iff_meets (fun _ _ _ h hok hstep => h.step hok (.of_step hstep))
    (fun _ _ _ h hbad hstep => h.not_step hbad hstep) (Accounted.start maxMessageSize) hrun

/-- A run with a queue that empties before `close` has the right amounts all along. -/
theorem bufferedAmount_exact_reentrantRun :
    ∃ w, Transition.run World.step (World.start 16) reentrantRun = some w ∧
      ∀ steps, steps <+: reentrantRun → ∀ w',
        Transition.run World.step (World.start 16) steps = some w' → Accounted w' :=
  ⟨_, rfl, (bufferedAmount_exact rfl).2 (by decide)⟩

/-- A one-byte message that waits in the queue, `close`, and a second one that is dropped. -/
def dropRun : List Event :=
  [.send (some (byteMessage 0 1)), .next { sendv := .wouldBlock }, .next {}, .callbackReturn,
    .close,
    .send (some (byteMessage 0 2)), .next { sendv := .wouldBlock }, .next {}]

theorem bufferedAmount_dropRun :
    ∃ w, Transition.run World.step (World.start 16) dropRun = some w ∧
      w.transport.mSendQueue.mQueue = [byteMessage 0 1] ∧
      queuedAmount w.transport.mSendQueue.mQueue 0 = 1 ∧
      bufferedAmount w.transport 0 = 2 ∧ lastReport w.reports 0 = 2 ∧ ¬Accounted w :=
  ⟨_, rfl, by decide, by decide, by decide, by decide,
    fun h => absurd (h 0 (Nat.zero_le _)).1 (by decide)⟩

end Rtc.SctpTransport
