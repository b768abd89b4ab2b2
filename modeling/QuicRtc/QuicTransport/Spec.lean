import QuicRtc.QuicTransport.Defs

/-!
# What the steps of the QUIC transport do

* `trySendQueue_cases`: what `trySendQueue` does.
* `World.Takes`: the events as a relation, one rule for each branch of the functions they call.

The flush tasks, the stream registry and the connection are proved about by cases on `World.Takes`.
-/

namespace Rtc.QuicTransport

open World

/-! ## The send queue -/

/-- With a connection the loop sends everything. -/
theorem trySendLoop_eq {c : ℕ} (messages : List Message) (w : World)
    (hconn : w.transport.conn = some c) (hshutdown : w.transport.mSendShutdown = false)
    (hqueue : w.transport.mSendQueue.mQueue = messages) :
    ∃ mSendQueue mBytesSent, mSendQueue.mQueue = [] ∧
      trySendLoop messages w =
        { w with
          transport := { w.transport with mSendQueue, mBytesSent }
          calls := w.calls ++
            List.replicate messages.length (.makeStream c (w.conns.contains c)) } := by
  -- on the messages in the queue, which the loop pops one by one
  induction messages generalizing w with
  | nil => exact ⟨w.transport.mSendQueue, w.transport.mBytesSent, hqueue, by simp [trySendLoop]⟩
  | cons message rest ih =>
    have hsend : w.trySendMessage message = some
        { w with
          transport := { w.transport with mBytesSent := w.transport.mBytesSent + message.size }
          calls := w.calls ++ [.makeStream c (w.conns.contains c)] } := by
      simp [trySendMessage, hconn]
    rw [trySendLoop, if_neg (by simp [hshutdown]), hsend]
    obtain ⟨mSendQueue, mBytesSent, hempty, hloop⟩ := ih
      { w with
        transport :=
          { w.transport with
            mBytesSent := w.transport.mBytesSent + message.size
            mSendQueue := w.transport.mSendQueue.pop.2 }
        calls := w.calls ++ [.makeStream c (w.conns.contains c)] }
      hconn hshutdown (by simp [hqueue])
    refine ⟨mSendQueue, mBytesSent, hempty, hloop.trans ?_⟩
    simp [List.replicate_succ]

/-- `trySendQueue` does nothing, or makes a stream for every message in the queue. -/
theorem trySendQueue_cases (w : World) :
    (w.trySendQueue = w ∧ (w.transport.mSendQueue.mQueue = [] ∨
        w.transport.mSendShutdown = true ∨ w.transport.conn = none)) ∨
      ∃ c mSendQueue mBytesSent, w.transport.conn = some c ∧
        w.transport.mSendShutdown = false ∧ mSendQueue.mQueue = [] ∧
        w.trySendQueue =
          { w with
            transport := { w.transport with mSendQueue, mBytesSent }
            calls := w.calls ++ List.replicate w.transport.mSendQueue.mQueue.length
              (.makeStream c (w.conns.contains c)) } := by
  unfold trySendQueue
  cases hqueue : w.transport.mSendQueue.mQueue with
  | nil => exact Or.inl ⟨rfl, Or.inl rfl⟩
  | cons message rest =>
    -- the loop stops at the first message, or sends them all
    cases hshutdown : w.transport.mSendShutdown with
    | true => exact Or.inl ⟨by simp [trySendLoop, hshutdown], Or.inr (Or.inl rfl)⟩
    | false =>
      cases hconn : w.transport.conn with
      | none =>
        refine Or.inl ⟨?_, Or.inr (Or.inr rfl)⟩
        simp [trySendLoop, hshutdown, trySendMessage, hconn]
      | some c =>
        obtain ⟨mSendQueue, mBytesSent, hempty, hloop⟩ :=
          trySendLoop_eq (message :: rest) w hconn hshutdown hqueue
        exact Or.inr ⟨c, mSendQueue, mBytesSent, rfl, rfl, hempty, hloop⟩

/-- What `trySendQueue` leaves alone. -/
theorem trySendQueue_frame (w : World) :
    w.trySendQueue.transport.mSendShutdown = w.transport.mSendShutdown ∧
      w.trySendQueue.transport.mPendingFlushCount = w.transport.mPendingFlushCount ∧
      w.trySendQueue.tasks = w.tasks := by
  rcases trySendQueue_cases w with ⟨hsame, -⟩ | ⟨_, _, _, -, -, -, heq⟩
  · rw [hsame]
    exact ⟨rfl, rfl, rfl⟩
  · rw [heq]
    exact ⟨rfl, rfl, rfl⟩

/-! ## Steps -/

namespace World

/-- The steps as a relation, one rule for each branch that can be taken. -/
inductive Takes (w : World) : Event → World → Prop
  | start (hstate : w.transport.mState = .disconnected) : Takes w .start (w.changeState .connected)
  | startAgain (hstate : w.transport.mState ≠ .disconnected) : Takes w .start w
  | stop : Takes w .stop w.stop
  | close : Takes w .close w.close
  | push {message : Message} :
    Takes w (.push message)
      { w with
        transport := { w.transport with mSendQueue := w.transport.mSendQueue.push message }
        sending := w.sending + 1 }
  | pushRefused {message : Message} : Takes w (.push message) w
  | enqueueFlush : Takes w .enqueueFlush w.enqueueFlush
  | doFlush {tasks : List FlushTask} (htasks : w.tasks = .queued :: tasks) :
    Takes w .doFlush { w.trySendQueue with tasks := .flushed :: tasks }
  | decrement {tasks : List FlushTask} (htasks : w.tasks = .flushed :: tasks) :
    Takes w .decrement
      { w with
        transport :=
          { w.transport with mPendingFlushCount := w.transport.mPendingFlushCount - 1 }
        tasks }
  | flush : Takes w .flush w.trySendQueue
  | closeStream {stream found : ℕ}
    (hfound : w.transport.streamIds (stream % 65536) = some found) :
    Takes w (.closeStream stream)
      { w.streamClose found with
        transport :=
          { w.transport with
            streams := Function.update w.transport.streams found none
            streamIds := Function.update w.transport.streamIds (stream % 65536) none } }
  | closeStreamUnknown {stream : ℕ} : Takes w (.closeStream stream) w
  | sendReset {streamId found : ℕ} (hfound : w.transport.streamIds streamId = some found) :
    Takes w (.sendReset streamId) (w.streamClose found)
  | sendResetUnknown {streamId : ℕ} (hnone : w.transport.streamIds streamId = none) :
    Takes w (.sendReset streamId) w
  | onNewConn {conn : ℕ} : Takes w (.onNewConn conn) (w.onNewConn conn)
  | onHskDone {conn : ℕ} {ok : Bool} (hconn : conn ∈ w.conns) :
    Takes w (.onHskDone conn ok) (w.changeState (if ok then .connected else .failed))
  | onConnClosed {conn : ℕ} : Takes w (.onConnClosed conn) (w.onConnClosed conn)
  | onNewStream {stream : ℕ} (hnew : stream ∉ w.openStreams) :
    Takes w (.onNewStream stream) (w.onNewStream stream)
  | onStreamClose {stream : ℕ} : Takes w (.onStreamClose stream) (w.onStreamClose stream)

/-- Every step follows a rule. -/
theorem Takes.of_step {w w' : World} {e : Event} (h : w.step e = some w') : Takes w e w' := by
  cases e with
  -- calls of the owner
  | start =>
    cases h
    unfold World.start
    split
    · next hstate => exact .start hstate
    · next hstate => exact .startAgain hstate
  | stop =>
    cases h
    exact .stop
  | close =>
    cases h
    exact .close
  | push message =>
    cases h
    unfold World.push
    split
    · exact .pushRefused
    · exact .push
  -- the flush as a task, which waits for the ones in front of it
  | enqueueFlush =>
    simp only [step, Option.ite_none_right_eq_some, Option.some.injEq] at h
    obtain ⟨-, rfl⟩ := h
    exact .enqueueFlush
  | doFlush =>
    simp only [step] at h
    split at h
    · next tasks htasks =>
      cases h
      exact .doFlush htasks
    · cases h
  | decrement =>
    simp only [step] at h
    split at h
    · next tasks htasks =>
      cases h
      exact .decrement htasks
    · cases h
  | flush =>
    cases h
    exact .flush
  -- calls on streams, which may be gone
  | closeStream stream =>
    cases h
    unfold World.closeStream
    dsimp only
    split
    · exact .closeStreamUnknown
    · next found hfound => exact .closeStream hfound
  | sendReset streamId =>
    simp only [step, Option.ite_none_right_eq_some, Option.some.injEq] at h
    obtain ⟨-, rfl⟩ := h
    unfold World.sendReset
    split
    · next hnone => exact .sendResetUnknown hnone
    · next found hfound => exact .sendReset hfound
  -- callbacks of the engine
  | onNewConn conn =>
    simp only [step, Option.ite_none_left_eq_some, Option.some.injEq] at h
    obtain ⟨-, rfl⟩ := h
    exact .onNewConn
  | onHskDone conn ok =>
    simp only [step, Option.ite_none_right_eq_some, Option.some.injEq] at h
    obtain ⟨hconn, rfl⟩ := h
    exact .onHskDone hconn
  | onConnClosed conn =>
    simp only [step, Option.ite_none_right_eq_some, Option.some.injEq] at h
    obtain ⟨-, rfl⟩ := h
    exact .onConnClosed
  | onNewStream stream =>
    simp only [step, Option.ite_none_left_eq_some, not_or, Option.some.injEq] at h
    obtain ⟨⟨hnew, -⟩, rfl⟩ := h
    exact .onNewStream hnew
  | onStreamClose stream =>
    simp only [step, Option.ite_none_right_eq_some, Option.some.injEq] at h
    obtain ⟨-, rfl⟩ := h
    exact .onStreamClose

end World

end Rtc.QuicTransport
