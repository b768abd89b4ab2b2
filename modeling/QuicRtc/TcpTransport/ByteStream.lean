import Mathlib.Algebra.BigOperators.Group.List.Basic
import Mathlib.Algebra.GroupWithZero.Nat
import QuicRtc.TcpTransport.Defs

/-!
# The TCP byte stream

The bytes written to the socket and then those in the queue are the bytes of the accepted messages,
in order, and `mBufferedAmount` is the size of the queue.

* `trySendMessage_append`: a call of `trySendMessage` writes the message up to what it leaves.
* `Streamed`: the invariant, with the lemmas for the parts of a step and `Streamed.step`.
* `byteStream`: the property of whole runs.
-/

namespace Rtc.TcpTransport

/-! ## Attempts to send -/

/-- What an attempt leaves of the message, when it does not throw. -/
def Outcome.left : Outcome → Option (List UInt8)
  | .sent => some []
  | .blocked rest => some rest
  | .threw => none

/-- A result of `::send` that is not another error. -/
def SendResult.Fine : SendResult → Prop
  | .wrote _ => True
  | .again => True
  | .failed _ => False

/-- The message is written up to what is left of it, and only another error makes `trySendMessage`
throw. -/
theorem trySendMessage_spec {message : List UInt8} {results : List SendResult} {attempt : Attempt}
    (h : trySendMessage message results = some attempt) :
    (∀ left, attempt.outcome.left = some left → attempt.written ++ left = message) ∧
      ((∀ result ∈ results, result.Fine) → attempt.outcome ≠ .threw) := by
  induction results generalizing message attempt with
  | nil =>
    simp only [trySendMessage, Option.ite_none_right_eq_some, Option.some.injEq] at h
    obtain ⟨rfl, rfl⟩ := h
    refine ⟨fun left hleft => ?_, fun _ => nofun⟩
    obtain rfl := Option.some.inj hleft
    rfl
  | cons result results ih =>
    cases result with
    | wrote len =>
      simp only [trySendMessage, Option.ite_none_left_eq_some, Option.ite_none_right_eq_some,
        Option.map_eq_some_iff] at h
      obtain ⟨-, -, attempt', hrest, rfl⟩ := h
      obtain ⟨hleft, hfine⟩ := ih hrest
      refine ⟨fun left hl => ?_, fun hall => hfine (List.forall_mem_cons.1 hall).2⟩
      rw [List.append_assoc, hleft left hl, List.take_append_drop]
    -- what is not written is left for the queue
    | again =>
      simp only [trySendMessage, Option.ite_none_left_eq_some, Option.ite_none_right_eq_some,
        Option.some.injEq] at h
      obtain ⟨-, -, rfl⟩ := h
      refine ⟨fun left hleft => ?_, fun _ => nofun⟩
      obtain rfl := Option.some.inj hleft
      rfl
    | failed errno =>
      simp only [trySendMessage, Option.ite_none_left_eq_some, Option.ite_none_right_eq_some,
        Option.some.injEq] at h
      obtain ⟨-, -, rfl⟩ := h
      exact ⟨nofun, fun hall => ((List.forall_mem_cons.1 hall).1).elim⟩

/-- An event in which `::send` reports no other error. -/
def Event.Fine : Event → Prop
  | .next results => ∀ result ∈ results, result.Fine
  | _ => True

/-! ## The invariant -/

/-- The size of the messages in a queue. -/
def queuedSize (messages : List (List UInt8)) : ℕ := (messages.map List.length).sum

/-- What is written and what is queued are the accepted messages, and the amount is the size of the
queue, which is never stopped. -/
structure Streamed (w : World) : Prop where
  bytes : w.written ++ w.transport.mSendQueue.mQueue.flatten = w.accepted.flatten
  amount : w.transport.mBufferedAmount = queuedSize w.transport.mSendQueue.mQueue
  running : w.transport.mSendQueue.mStopping = false

/-- The parts of the world that `updateAmount` leaves alone. -/
theorem updateAmount_frame (w : World) (delta : ℤ) :
    (w.updateAmount delta).transport.mSendQueue = w.transport.mSendQueue ∧
      (w.updateAmount delta).written = w.written ∧
      (w.updateAmount delta).accepted = w.accepted ∧
      (w.updateAmount delta).transport.mBufferedAmount =
        (max (w.transport.mBufferedAmount + delta) 0).toNat := by
  unfold World.updateAmount updateBufferedAmount
  split_ifs with hzero
  · simp [hzero]
  · exact ⟨rfl, rfl, rfl, rfl⟩

namespace Streamed

variable {w : World}

theorem start : Streamed World.start := ⟨rfl, rfl, rfl⟩

/-- The property depends on the queue, the amount and the two streams only. -/
theorem congr {w' : World} (h : Streamed w)
    (hqueue : w'.transport.mSendQueue = w.transport.mSendQueue)
    (hamount : w'.transport.mBufferedAmount = w.transport.mBufferedAmount)
    (hwritten : w'.written = w.written) (haccepted : w'.accepted = w.accepted) : Streamed w' where
  bytes := by rw [hwritten, hqueue, haccepted, h.bytes]
  amount := by rw [hamount, hqueue, h.amount]
  running := by rw [hqueue, h.running]

/-- `updateAmount` accounts for what has changed in the queue. -/
theorem updateAmount {delta : ℤ}
    (hbytes : w.written ++ w.transport.mSendQueue.mQueue.flatten = w.accepted.flatten)
    (hamount : (queuedSize w.transport.mSendQueue.mQueue : ℤ) =
      w.transport.mBufferedAmount + delta)
    (hrunning : w.transport.mSendQueue.mStopping = false) : Streamed (w.updateAmount delta) := by
  obtain ⟨hqueue, hwritten, haccepted, hamount'⟩ := updateAmount_frame w delta
  refine ⟨?_, ?_, ?_⟩
  · rw [hqueue, hwritten, haccepted, hbytes]
  · rw [hqueue, hamount', ← hamount]
    omega
  · rw [hqueue, hrunning]

/-- A message is pushed: what was accepted before is written or queued, and the message is the rest
of what is accepted. -/
theorem push {message : List UInt8}
    (hbytes : w.written ++ w.transport.mSendQueue.mQueue.flatten ++ message = w.accepted.flatten)
    (hamount : w.transport.mBufferedAmount = queuedSize w.transport.mSendQueue.mQueue)
    (hrunning : w.transport.mSendQueue.mStopping = false) : Streamed (w.push message) := by
  refine updateAmount ?_ ?_ ?_
  · simpa [Queue.mQueue_push_of_running hrunning] using hbytes
  · simp only [Queue.mQueue_push_of_running hrunning, queuedSize, List.map_append,
      List.sum_append, hamount]
    simp
  · simpa using hrunning

/-- `trySendMessage` on the message of `outgoing`, when nothing is queued. -/
theorem sendDirect (h : Streamed w) (hempty : w.transport.mSendQueue.mQueue = [])
    {message : List UInt8} {results : List SendResult} (hfine : ∀ result ∈ results, result.Fine)
    {w' : World} (hstep : w.sendDirect message results = some w') : Streamed w' := by
  obtain ⟨attempt, hattempt, rfl⟩ := Option.map_eq_some_iff.1 hstep
  obtain ⟨hleft, hthrew⟩ := trySendMessage_spec hattempt
  have hwritten : w.written = w.accepted.flatten := by
    rw [← h.bytes, hempty, List.flatten_nil, List.append_nil]
  cases houtcome : attempt.outcome with
  | sent =>
    have hall : attempt.written = message := by
      simpa using hleft [] (by rw [houtcome]; rfl)
    refine ⟨?_, h.amount, h.running⟩
    simp [hempty, hwritten, hall]
  | blocked rest =>
    have hall : attempt.written ++ rest = message := hleft rest (by rw [houtcome]; rfl)
    refine push ?_ h.amount h.running
    simp [hempty, hwritten, hall]
  | threw => exact absurd houtcome (hthrew hfine)

/-- A round of `trySendQueue`. -/
theorem trySendQueue (h : Streamed w) {results : List SendResult}
    (hfine : ∀ result ∈ results, result.Fine) {w' : World}
    (hstep : w.trySendQueue results = some w') : Streamed w' := by
  unfold World.trySendQueue at hstep
  split at hstep
  · next hpeek =>
    have hempty : w.transport.mSendQueue.mQueue = [] := List.head?_eq_none_iff.1 hpeek
    unfold World.returnSent at hstep
    split at hstep
    · next message stack hstack =>
      have hframe : Streamed { w with stack } := h.congr rfl rfl rfl rfl
      exact hframe.sendDirect hempty hfine hstep
    · obtain ⟨-, hreturn⟩ := Option.ite_none_right_eq_some.1 hstep
      obtain rfl := Option.some.inj hreturn
      exact h.congr rfl rfl rfl rfl
    · obtain ⟨-, hreturn⟩ := Option.ite_none_right_eq_some.1 hstep
      obtain rfl := Option.some.inj hreturn
      exact h.congr rfl rfl rfl rfl
    · cases hstep
  · next message hpeek =>
    obtain ⟨queue, hqueue⟩ := List.head?_eq_some_iff.1 hpeek
    obtain ⟨attempt, hattempt, rfl⟩ := Option.map_eq_some_iff.1 hstep
    obtain ⟨hleft, hthrew⟩ := trySendMessage_spec hattempt
    have hbytes := h.bytes
    have hamount := h.amount
    rw [hqueue, List.flatten_cons] at hbytes
    rw [hqueue, queuedSize, List.map_cons, List.sum_cons, ← queuedSize] at hamount
    cases houtcome : attempt.outcome with
    | sent =>
      have hall : attempt.written = message := by
        simpa using hleft [] (by rw [houtcome]; rfl)
      -- the head of the queue has been written
      refine updateAmount ?_ ?_ ?_
      · simp [hqueue, hall, hbytes]
      · simp [hqueue, hamount]
      · simpa using h.running
    | blocked rest =>
      have hall : attempt.written ++ rest = message := hleft rest (by rw [houtcome]; rfl)
      refine updateAmount ?_ ?_ ?_
      · simp [Queue.mQueue_exchange hqueue, ← hbytes, ← hall]
      · simp only [Queue.mQueue_exchange hqueue, queuedSize, List.map_cons, List.sum_cons, hamount]
        push_cast
        omega
      · simpa using h.running
    | threw => exact absurd houtcome (hthrew hfine)

theorem send (h : Streamed w) (message : List UInt8) : Streamed (w.send message) := by
  unfold World.send
  split_ifs
  · exact h.congr rfl rfl rfl rfl
  · exact h.congr rfl rfl rfl rfl
  · exact h.congr rfl rfl rfl rfl

theorem step (h : Streamed w) {e : Event} (hfine : e.Fine) {w' : World}
    (hstep : w.step e = some w') : Streamed w' := by
  cases e with
  | send message =>
    obtain ⟨-, hsend⟩ := Option.ite_none_right_eq_some.1 hstep
    obtain rfl := Option.some.inj hsend
    exact h.send message
  | processOut =>
    obtain ⟨-, hprocess⟩ := Option.ite_none_right_eq_some.1 hstep
    obtain rfl := Option.some.inj hprocess
    exact h.congr rfl rfl rfl rfl
  -- the call in progress writes what it can and queues the rest
  | next results =>
    unfold World.step at hstep
    dsimp only at hstep
    split at hstep
    · next stack hstack =>
      have hframe : Streamed { w with stack } := h.congr rfl rfl rfl rfl
      exact hframe.trySendQueue hfine hstep
    · next message stack hstack =>
      obtain ⟨-, hpush⟩ := Option.ite_none_right_eq_some.1 hstep
      obtain rfl := Option.some.inj hpush
      refine push ?_ h.amount h.running
      simp [← h.bytes]
    · obtain ⟨-, hregister⟩ := Option.ite_none_right_eq_some.1 hstep
      obtain rfl := Option.some.inj hregister
      exact h.congr rfl rfl rfl rfl
    · cases hstep
  | callbackReturn =>
    unfold World.step at hstep
    dsimp only at hstep
    split at hstep
    · obtain rfl := Option.some.inj hstep
      exact h.congr rfl rfl rfl rfl
    · cases hstep

end Streamed

/-! ## Runs -/

/-- In every run of `send` calls and `Out` events, with any partial writes and any `EAGAIN` but no
other error of `::send`, and at every point of it where the outside acts: the bytes written followed
by those of the queue are those of the accepted messages, in order, and `mBufferedAmount` is the
size of the queue. -/
theorem byteStream {es : List Event} {w : World} (hfine : ∀ e ∈ es, e.Fine)
    (hrun : Transition.run World.step World.start es = some w) :
    w.written ++ w.transport.mSendQueue.mQueue.flatten = w.accepted.flatten ∧
      w.transport.mBufferedAmount = (w.transport.mSendQueue.mQueue.map List.length).sum := by
  have hstreamed : Streamed w :=
    Transition.run_invariant (fun _ _ _ h hok hstep => h.step hok hstep) Streamed.start
      (Transition.meets_of_forall hfine) hrun
  exact ⟨hstreamed.bytes, hstreamed.amount⟩

/-- A message of which one byte is written is queued; while it is drained, the callback sends a
second one, which is queued behind what is left of the first. -/
theorem byteStream_reentered :
    ∃ w, Transition.run World.step World.start
        [.send [1, 2, 3], .next [.wrote 1, .again], .callbackReturn, .next [],
          .processOut, .next [.wrote 1, .again], .send [4, 5], .next [.again], .next [],
          .callbackReturn, .next [], .callbackReturn] = some w ∧
      w.transport.mSendQueue.mQueue = [[3], [4, 5]] ∧
      w.written ++ w.transport.mSendQueue.mQueue.flatten = w.accepted.flatten ∧
      w.transport.mBufferedAmount = (w.transport.mSendQueue.mQueue.map List.length).sum := by
  have hfine : ∀ e ∈ [Event.send [1, 2, 3], .next [.wrote 1, .again], .callbackReturn, .next [],
      .processOut, .next [.wrote 1, .again], .send [4, 5], .next [.again], .next [],
      .callbackReturn, .next [], .callbackReturn], e.Fine := by
    simp [Event.Fine, SendResult.Fine]
  exact ⟨_, rfl, rfl, byteStream hfine rfl⟩

end Rtc.TcpTransport
