import Mathlib.Data.List.Basic
import QuicRtc.SctpTransport.Defs

/-!
# What the steps of the send path do

Specification lemmas of the functions of `SctpTransport.Defs`, one for each function, in the terms
the invariants of the send path are stated in: the queue, the stop and shutdown flags, the messages
handed over and the sends in progress. `World.Takes` lists what a step can do.
-/

namespace Rtc.SctpTransport

/-! ## Messages in progress -/

@[simp]
theorem handed_append (xs ys : List Output) : handed (xs ++ ys) = handed xs ++ handed ys :=
  List.filterMap_append

@[simp]
theorem handed_shutdown : handed [.shutdown] = [] := rfl

theorem handed_singleton {output : Output} {m : Message} (h : output.message = some m) :
    handed [output] = [m] := by
  simp [handed, h]

@[simp]
theorem pendingSends_nil : pendingSends [] = [] := rfl

@[simp]
theorem pendingSends_trySendQueue (stack : List Frame) :
    pendingSends (.trySendQueue :: stack) = pendingSends stack := rfl

@[simp]
theorem pendingSends_callback (stack : List Frame) :
    pendingSends (.bufferedAmountCallback :: stack) = pendingSends stack := rfl

@[simp]
theorem pendingSends_sendFlushing (m : Message) (stack : List Frame) :
    pendingSends (.sendFlushing m :: stack) = m :: pendingSends stack := rfl

@[simp]
theorem pendingSends_sendQueueing (m : Message) (stack : List Frame) :
    pendingSends (.sendQueueing m :: stack) = m :: pendingSends stack := rfl

/-- Returning `false` from `trySendQueue` leaves the sends in progress. -/
@[simp]
theorem pendingSends_returnBlocked (stack : List Frame) :
    pendingSends (returnBlocked stack) = pendingSends stack := by
  unfold returnBlocked
  split <;> rfl

/-- An exception splits the sends in progress into those it ends and those that continue. -/
theorem pendingSends_unwind (stack : List Frame) :
    pendingSends stack = pendingSends (unwound stack) ++ pendingSends (unwind stack) := by
  -- the exception passes the frames up to the innermost callback of the user
  induction stack with
  | nil => rfl
  | cons frame rest ih => cases frame <;> simp [unwound, unwind, ih]

/-! ## Functions of the transport -/

/-- `trySendMessage` that returns `true` hands over its message and changes nothing but the byte
counter; the transport is then connected. -/
theorem trySendMessage_accepted {t t' : SctpTransport} {m : Message} {result : SendvResult}
    {output : Output} (h : t.trySendMessage m result = .accepted t' output) :
    output.message = some m ∧ ∃ bytesSent, t' = { t with mBytesSent := bytesSent } := by
  unfold trySendMessage at h
  split at h
  · cases h
  · split at h
    · cases h
      exact ⟨rfl, t.mBytesSent, rfl⟩
    · split at h
      · cases h
      · split at h
        · cases h
          exact ⟨rfl, _, rfl⟩
        · cases h
        · cases h

/-- `trySendMessage` throws only if usrsctp reports an error or the reliability of the message is
out of range. -/
theorem trySendMessage_threw {t : SctpTransport} {m : Message} {result : SendvResult}
    {e : Exception} (h : t.trySendMessage m result = .threw e) :
    (∃ errno, result = .failed errno) ∨ ∃ e, sendvSpa m = .error e := by
  unfold trySendMessage at h
  split at h
  · cases h
  · split at h
    · cases h
    · split at h
      · next e' hspa => exact Or.inr ⟨e', hspa⟩
      · split at h
        · cases h
        · cases h
        · next errno => exact Or.inl ⟨errno, rfl⟩

namespace World

variable (w : World)

/-- `updateAmount` may enter the callback, which is not a send. -/
@[simp]
theorem pendingSends_updateAmount (streamId : ℕ) (delta : ℤ) :
    pendingSends (w.updateAmount streamId delta).stack = pendingSends w.stack := by
  unfold updateAmount
  split <;> rfl

/-- `updateAmount` touches the amounts, the stack and the reports only. -/
theorem updateAmount_frame (streamId : ℕ) (delta : ℤ) :
    (w.updateAmount streamId delta).transport.mSendQueue = w.transport.mSendQueue ∧
      (w.updateAmount streamId delta).transport.mState = w.transport.mState ∧
      (w.updateAmount streamId delta).transport.mSendShutdown = w.transport.mSendShutdown ∧
      (w.updateAmount streamId delta).outputs = w.outputs ∧
      (w.updateAmount streamId delta).called = w.called ∧
      (w.updateAmount streamId delta).accepted = w.accepted ∧
      (w.updateAmount streamId delta).refused = w.refused := by
  unfold updateAmount updateBufferedAmount
  by_cases hdelta : delta = 0 <;> simp [hdelta]

/-- Shutting down does not touch the queue. -/
@[simp]
theorem mSendQueue_shutdownIfStopped (result : ShutdownResult) :
    (w.shutdownIfStopped result).transport.mSendQueue = w.transport.mSendQueue := by
  unfold shutdownIfStopped
  split <;> rfl

/-- The steps as a relation, one rule for each branch that can be taken. -/
inductive Takes (w : World) : Event → World → Prop
  | send {message : Option Message} : Takes w (.send message) (w.send message)
  | closeStream {stream : ℕ} : Takes w (.closeStream stream) (w.closeStream stream)
  | flush : Takes w .flush { w with stack := .trySendQueue :: w.stack }
  -- `flush` on a transport that is not connected returns at once
  | flushRefused : Takes w .flush w
  | doFlush (hstack : w.stack = []) : Takes w .doFlush { w with stack := [.trySendQueue] }
  | close : Takes w .close w.close
  | trySendQueue {answer : Answer} {rest : List Frame} (hstack : w.stack = .trySendQueue :: rest) :
    Takes w (.next answer) ({ w with stack := rest }.trySendQueue answer)
  | sendQueueing {answer : Answer} {m : Message} {rest : List Frame}
    (hstack : w.stack = .sendQueueing m :: rest) :
    Takes w (.next answer) ({ w with stack := rest }.sendQueueing m)
  | callbackReturn {rest : List Frame} (hstack : w.stack = .bufferedAmountCallback :: rest) :
    Takes w .callbackReturn { w with stack := rest }

/-- Every step follows a rule. -/
theorem Takes.of_step {w w' : World} {e : Event} (h : w.step e = some w') : Takes w e w' := by
  cases e with
  -- a call starts where no other one is in progress
  | send message =>
    simp only [step, Option.ite_none_right_eq_some, Option.some.injEq] at h
    obtain ⟨-, rfl⟩ := h
    exact .send
  | closeStream stream =>
    simp only [step, Option.ite_none_right_eq_some, Option.some.injEq] at h
    obtain ⟨-, rfl⟩ := h
    exact .closeStream
  | flush =>
    simp only [step, Option.ite_none_right_eq_some] at h
    obtain ⟨-, h⟩ := h
    split at h
    · cases h
      exact .flushRefused
    · cases h
      exact .flush
  | doFlush =>
    simp only [step, Option.ite_none_right_eq_some, Option.some.injEq] at h
    obtain ⟨hstack, rfl⟩ := h
    exact .doFlush hstack
  | close =>
    cases h
    exact .close
  -- the call in progress goes on with an answer of the stack
  | next answer =>
    simp only [step] at h
    split at h
    · next rest hstack =>
      cases h
      exact .trySendQueue hstack
    · next m rest hstack =>
      cases h
      exact .sendQueueing hstack
    · cases h
  | callbackReturn =>
    simp only [step] at h
    split at h
    · next rest hstack =>
      cases h
      exact .callbackReturn hstack
    · cases h

end World

end Rtc.SctpTransport
