import Mathlib.Data.List.Perm.Basic
import Mathlib.Data.List.Count
import QuicRtc.SctpTransport.Spec

/-!
# Delivery order of the SCTP send path

Whatever usrsctp answers and however the user calls `send` again from the buffered-amount callback,
the messages handed to usrsctp followed by those in the queue are the messages the transport took
charge of, in order, and the sending direction is shut down at most once, after the last of them.

* `Ordered`: the invariant, with the accounting of every call.
* `Ordered.step`: each step of the machine preserves it, provided that nothing is sent after
  `close`.
* `delivery_order`: the resulting property of every run.
-/

namespace Rtc.SctpTransport

/-- Nothing is sent after `close`: no message is passed to `send` or `closeStream` once the queue
has been stopped, and `close` itself does not come in the middle of a `send`. -/
def NoSendAfterClose (w : World) : Event → Prop
  | .send (some _) => w.transport.mSendQueue.mStopping = false
  | .closeStream _ => w.transport.mSendQueue.mStopping = false
  | .close => pendingSends w.stack = []
  | _ => True

instance (w : World) : DecidablePred (NoSendAfterClose w)
  | .send none => isTrue trivial
  | .send (some _) => inferInstanceAs (Decidable (_ = false))
  | .closeStream _ => inferInstanceAs (Decidable (_ = false))
  | .close => inferInstanceAs (Decidable (_ = []))
  | .flush => isTrue trivial
  | .doFlush => isTrue trivial
  | .next _ => isTrue trivial
  | .callbackReturn => isTrue trivial

/-- The invariant of the send path. -/
structure Ordered (w : World) : Prop where
  /-- What was handed over, followed by the queue, is what was accepted. -/
  order : handed w.outputs ++ w.transport.mSendQueue.mQueue = w.accepted
  /-- Every message passed to the transport is accepted, in progress or refused, exactly once. -/
  calls : ∀ m, w.called.count m =
    w.accepted.count m + (pendingSends w.stack).count m + w.refused.count m
  /-- No send is in progress once the queue is stopped. -/
  stopped : w.transport.mSendQueue.mStopping = true → pendingSends w.stack = []
  notConnecting : w.transport.mState ≠ .connecting
  /-- The shutdown flag counts the shutdowns. -/
  count : w.outputs.count .shutdown = if w.transport.mSendShutdown then 1 else 0
  /-- The shutdown comes after the queue was stopped and emptied. -/
  shutdown : w.transport.mSendShutdown = true →
    w.transport.mSendQueue.mStopping = true ∧ w.transport.mSendQueue.mQueue = []
  /-- Every accepted message is handed over before the shutdown. -/
  last : ∀ before after, w.outputs = before ++ .shutdown :: after → handed before = w.accepted

namespace Ordered

variable {w : World}

theorem start (maxMessageSize : ℕ) : Ordered (World.start maxMessageSize) where
  order := rfl
  calls := fun _ => rfl
  stopped := fun _ => rfl
  notConnecting := by simp [World.start, fresh]
  count := rfl
  shutdown := by simp [World.start, fresh]
  last := by simp [World.start]

/-- While the shutdown has not been issued it is not among the outputs. -/
theorem shutdown_not_mem (h : Ordered w) (hflag : w.transport.mSendShutdown = false) :
    .shutdown ∉ w.outputs := by
  have hcount := h.count
  rw [hflag] at hcount
  exact List.count_eq_zero.1 (by simpa using hcount)

/-- Nor is it after a message has been handed over. -/
theorem shutdown_notMem_append (h : Ordered w) (hflag : w.transport.mSendShutdown = false)
    {output : Output} {m : Message} (houtput : output.message = some m) :
    .shutdown ∉ w.outputs ++ [output] := by
  intro hmem
  rcases List.mem_append.1 hmem with hmem | hmem
  · exact h.shutdown_not_mem hflag hmem
  · rw [← List.mem_singleton.1 hmem] at houtput
    cases houtput

/-- Outputs without a shutdown do not split at one. -/
private theorem ne_of_shutdown_notMem {outputs before after : List Output}
    (hnot : .shutdown ∉ outputs) : outputs ≠ before ++ .shutdown :: after := by
  rintro rfl
  simp at hnot

/-- Outputs that end with the first shutdown split at it in one way only. -/
private theorem last_of_append {outputs before after : List Output}
    (hnot : .shutdown ∉ outputs) (h : outputs ++ [.shutdown] = before ++ .shutdown :: after) :
    before = outputs := by
  have hsplit := (List.append_cons_inj_of_notMem hnot (by simp)).1 h
  exact hsplit.1.symm

/-- The invariant only looks at the sends in progress, not at the other frames. -/
theorem of_stack (h : Ordered w) {stack : List Frame}
    (hstack : pendingSends stack = pendingSends w.stack) : Ordered { w with stack } where
  order := h.order
  calls := by
    rw [hstack]
    exact h.calls
  stopped := by
    rw [hstack]
    exact h.stopped
  notConnecting := h.notConnecting
  count := h.count
  shutdown := h.shutdown
  last := h.last

/-- An exception moves the sends it ends to the refused ones. -/
theorem throw (h : Ordered w) : Ordered w.throw where
  order := h.order
  calls := by
    intro m
    have hcalls := h.calls m
    -- the sends below the catching frame go on
    rw [pendingSends_unwind w.stack, List.count_append] at hcalls
    simp only [World.throw, List.count_append]
    omega
  stopped := by
    intro hstopping
    have hpending := h.stopped hstopping
    rw [pendingSends_unwind w.stack, List.append_eq_nil_iff] at hpending
    exact hpending.2
  notConnecting := h.notConnecting
  count := h.count
  shutdown := h.shutdown
  last := h.last

/-- Updating the buffered amount does not touch what the invariant looks at. -/
theorem updateAmount (h : Ordered w) (streamId : ℕ) (delta : ℤ) :
    Ordered (w.updateAmount streamId delta) := by
  obtain ⟨hqueue, hstate, hflag, houtputs, hcalled, haccepted, hrefused⟩ :=
    w.updateAmount_frame streamId delta
  have hpending := w.pendingSends_updateAmount streamId delta
  constructor
  · rw [houtputs, hqueue, haccepted]
    exact h.order
  · rw [haccepted, hpending, hrefused, hcalled]
    exact h.calls
  · rw [hqueue, hpending]
    exact h.stopped
  · rw [hstate]
    exact h.notConnecting
  · rw [houtputs, hflag]
    exact h.count
  · rw [hflag, hqueue]
    exact h.shutdown
  · rw [houtputs, haccepted]
    exact h.last

/-! ## Preservation -/

/-- A call of `send` starts a send in progress, or does nothing. -/
theorem send (h : Ordered w) (message : Option Message)
    (hok : NoSendAfterClose w (.send message)) : Ordered (w.send message) := by
  unfold World.send
  split
  · exact h
  · split
    · exact h.of_stack (by simp)
    · next m =>
      split
      · exact h
      · have hrunning : w.transport.mSendQueue.mStopping = false := hok
        exact
          { order := h.order
            calls := by
              intro m'
              have hcalls := h.calls m'
              -- the message is called and in progress
              simp only [pendingSends_trySendQueue, pendingSends_sendFlushing, List.count_append,
                List.count_cons, List.count_nil]
              omega
            stopped := by simp [hrunning]
            notConnecting := h.notConnecting
            count := h.count
            shutdown := h.shutdown
            last := h.last }

/-- A message put at the end of the running queue is accepted. The sends in progress lose it, or
it is passed to the transport at that moment. -/
private theorem push (h : Ordered w) (hrunning : w.transport.mSendQueue.mStopping = false)
    (m : Message) {stack : List Frame} {called : List Message}
    (hcalls : ∀ m', called.count m' + (pendingSends w.stack).count m' =
      w.called.count m' + (pendingSends stack).count m' + [m].count m') :
    Ordered
      { w with
        transport := { w.transport with mSendQueue := w.transport.mSendQueue.push m }
        stack
        called
        accepted := w.accepted ++ [m] } := by
  have hflag : w.transport.mSendShutdown = false := by
    by_contra hflag
    have hstopping := (h.shutdown (by simpa using hflag)).1
    rw [hrunning] at hstopping
    cases hstopping
  -- a running queue keeps the message
  have hqueue := Queue.mQueue_push_of_running hrunning m
  constructor
  · simp only [hqueue]
    rw [← h.order, List.append_assoc]
  · intro m'
    have hbefore := h.calls m'
    have hmove := hcalls m'
    simp only [List.count_append]
    omega
  · simp [hrunning]
  · exact h.notConnecting
  · exact h.count
  · simp [hflag]
  · intro before after hsplit
    exact absurd hsplit (ne_of_shutdown_notMem (h.shutdown_not_mem hflag))

/-- `closeStream` accepts a reset. -/
theorem closeStream (h : Ordered w) (stream : ℕ)
    (hok : NoSendAfterClose w (.closeStream stream)) : Ordered (w.closeStream stream) := by
  unfold World.closeStream
  split
  · exact h
  · apply h.push hok
    intro m'
    rw [List.count_append]
    omega

/-- `close` stops the queue when no send is in progress. -/
theorem close (h : Ordered w) (hok : NoSendAfterClose w .close) : Ordered w.close := by
  unfold World.close
  -- the transport is connected from the start, so `close` does not change its state
  rw [if_neg h.notConnecting]
  exact
    { order := h.order
      calls := h.calls
      stopped := fun _ => hok
      notConnecting := h.notConnecting
      count := h.count
      shutdown := fun hflag => ⟨rfl, (h.shutdown hflag).2⟩
      last := h.last }

/-- The end of `trySendQueue`, on an empty queue. -/
theorem shutdownIfStopped (h : Ordered w) (hempty : w.transport.mSendQueue.mQueue = [])
    (result : ShutdownResult) : Ordered (w.shutdownIfStopped result) := by
  unfold World.shutdownIfStopped
  split
  · next hcond =>
    simp only [Queue.running, hempty, Bool.and_eq_true, Bool.not_eq_true', Bool.or_eq_false_iff,
      Bool.not_eq_false'] at hcond
    obtain ⟨⟨-, hstopping⟩, hflag⟩ := hcond
    -- the queue is empty, so everything accepted has been handed over
    have hhanded : handed w.outputs = w.accepted := by simpa [hempty] using h.order
    constructor
    · simpa [hempty] using hhanded
    · exact h.calls
    · exact h.stopped
    · simp only
      split
      · simp
      · exact h.notConnecting
    · have hcount := h.count
      rw [hflag] at hcount
      simp only [List.count_append, hcount]
      rfl
    · exact fun _ => ⟨hstopping, hempty⟩
    · intro before after hsplit
      rw [last_of_append (h.shutdown_not_mem hflag) hsplit]
      exact hhanded
  · exact h

/-- A message at the head of the queue that is handed over moves from the queue to the outputs. The
shutdown has not been issued yet, as the queue is not empty. -/
private theorem handOver (h : Ordered w) {m : Message} {rest : List Message}
    (hqueue : w.transport.mSendQueue.mQueue = m :: rest) {output : Output}
    (houtput : output.message = some m) (bytesSent : ℕ) :
    Ordered
      { w with
        transport :=
          { w.transport with
            mBytesSent := bytesSent
            mSendQueue := w.transport.mSendQueue.pop.2 }
        outputs := w.outputs ++ [output] } := by
  have hflag : w.transport.mSendShutdown = false := by
    -- the shutdown would have found the queue empty
    by_contra hflag
    have hempty := (h.shutdown (by simpa using hflag)).2
    rw [hqueue] at hempty
    cases hempty
  have hnot : .shutdown ∉ w.outputs ++ [output] := h.shutdown_notMem_append hflag houtput
  constructor
  · have horder := h.order
    rw [hqueue] at horder
    simpa [hqueue, handed_singleton houtput] using horder
  · exact h.calls
  · simpa using h.stopped
  · exact h.notConnecting
  · simp [hflag, List.count_eq_zero.2 hnot]
  · simp [hflag]
  · intro before after hsplit
    exact absurd hsplit (ne_of_shutdown_notMem hnot)

/-- A message handed over by `send` itself, on an empty queue, is accepted at that moment. The
shutdown has not been issued yet, as a send is in progress. -/
private theorem handDirect {m : Message}
    (h : Ordered { w with stack := .sendFlushing m :: w.stack })
    (hempty : w.transport.mSendQueue.mQueue = []) {output : Output}
    (houtput : output.message = some m) (bytesSent : ℕ) :
    Ordered
      { w with
        transport := { w.transport with mBytesSent := bytesSent }
        outputs := w.outputs ++ [output]
        accepted := w.accepted ++ [m] } := by
  -- `send` is in progress, so neither the queue is stopped nor the shutdown issued
  have hrunning : w.transport.mSendQueue.mStopping = false := by
    by_contra hstopping
    have hpending := h.stopped (by simpa using hstopping)
    simp at hpending
  have hflag : w.transport.mSendShutdown = false := by
    by_contra hflag
    have hstopping : w.transport.mSendQueue.mStopping = true :=
      (h.shutdown (by simpa using hflag)).1
    rw [hrunning] at hstopping
    cases hstopping
  have hnot : .shutdown ∉ w.outputs ++ [output] := h.shutdown_notMem_append hflag houtput
  constructor
  · have horder : handed w.outputs ++ w.transport.mSendQueue.mQueue = w.accepted := h.order
    rw [hempty, List.append_nil] at horder
    simp [hempty, horder, handed_singleton houtput]
  · intro m'
    have hcalls : w.called.count m' = w.accepted.count m' +
        (pendingSends (.sendFlushing m :: w.stack)).count m' + w.refused.count m' := h.calls m'
    rw [pendingSends_sendFlushing, List.count_cons] at hcalls
    simp only [List.count_append, List.count_singleton]
    omega
  · simp [hrunning]
  · exact h.notConnecting
  · simp [hflag, List.count_eq_zero.2 hnot]
  · simp [hflag]
  · intro before after hsplit
    exact absurd hsplit (ne_of_shutdown_notMem hnot)

/-- `send` of a message on an empty queue hands it over, queues it later, or ends. -/
theorem sendDirect {m : Message} (h : Ordered { w with stack := .sendFlushing m :: w.stack })
    (hempty : w.transport.mSendQueue.mQueue = []) (result : SendvResult) :
    Ordered (w.sendDirect m result) := by
  unfold World.sendDirect
  split
  · exact h.of_stack (by simp)
  · exact h.throw
  · next t output htry =>
    obtain ⟨houtput, bytesSent, rfl⟩ := trySendMessage_accepted htry
    exact handDirect h hempty houtput bytesSent

/-- `trySendQueue` returns `true` on an empty queue, and `send` continues. -/
theorem returnFlushed (h : Ordered w) (hempty : w.transport.mSendQueue.mQueue = [])
    (result : SendvResult) : Ordered (w.returnFlushed result) := by
  unfold World.returnFlushed
  split
  · next m rest hstack =>
    exact sendDirect (w := { w with stack := rest }) (h.of_stack (by simp [hstack])) hempty result
  · exact h

/-- One round of `trySendQueue`. -/
theorem trySendQueue (h : Ordered w) (answer : Answer) : Ordered (w.trySendQueue answer) := by
  unfold World.trySendQueue
  split
  · next hpeek =>
    -- the loop ends, and the sending direction may be shut down
    have hempty : w.transport.mSendQueue.mQueue = [] := List.head?_eq_none_iff.1 hpeek
    exact (h.shutdownIfStopped hempty answer.shutdown).returnFlushed (by simpa using hempty) _
  · next m hpeek =>
    obtain ⟨rest, hqueue⟩ := List.head?_eq_some_iff.1 hpeek
    split
    · exact h.of_stack (by simp)
    · exact h.throw
    · next t output htry =>
      obtain ⟨houtput, bytesSent, rfl⟩ := trySendMessage_accepted htry
      -- `to_uint16` may throw after the message has been handed over
      have hhanded := h.handOver hqueue houtput bytesSent
      split
      · exact hhanded.throw
      · exact (hhanded.of_stack (by simp)).updateAmount _ _

/-- `send` pushes its message on the queue. -/
theorem sendQueueing {m : Message} (h : Ordered { w with stack := .sendQueueing m :: w.stack }) :
    Ordered (w.sendQueueing m) := by
  have hrunning : w.transport.mSendQueue.mStopping = false := by
    by_contra hstopping
    have hpending := h.stopped (by simpa using hstopping)
    simp at hpending
  -- the send in progress becomes an accepted message
  have hpushed : Ordered
      { w with
        transport := { w.transport with mSendQueue := w.transport.mSendQueue.push m }
        accepted := w.accepted ++ [m] } := by
    apply h.push hrunning
    intro m'
    simp only [pendingSends_sendQueueing, List.count_cons, List.count_nil]
    omega
  unfold World.sendQueueing
  split
  · exact hpushed.throw
  · exact hpushed.updateAmount _ _

/-- Every step preserves the invariant, provided that nothing is sent after `close`. -/
theorem step {e : Event} {w' : World} (h : Ordered w) (hok : NoSendAfterClose w e)
    (hstep : w.Takes e w') : Ordered w' := by
  cases hstep with
  | send => exact h.send _ hok
  | closeStream => exact h.closeStream _ hok
  | flush => exact h.of_stack (by simp)
  | flushRefused => exact h
  | doFlush hstack => exact h.of_stack (by simp [hstack])
  | close => exact h.close hok
  | trySendQueue hstack => exact trySendQueue (h.of_stack (by simp [hstack])) _
  | @sendQueueing _ m rest hstack =>
    exact sendQueueing (w := { w with stack := rest }) (h.of_stack (by simp [hstack]))
  | callbackReturn hstack => exact h.of_stack (by simp [hstack])

end Ordered

/-! ## Runs without send errors -/

/-- A message that `trySendMessage` does not throw on: its stream and its reliability are in
range. -/
def Sendable (m : Message) : Prop := m.stream ≤ 65535 ∧ ∃ spa, sendvSpa m = .ok spa

/-- Events without send errors: usrsctp answers success or `EWOULDBLOCK`, and the messages are
sendable. -/
def NoSendError : Event → Prop
  | .send (some m) => Sendable m
  | .next answer => ∀ errno, answer.sendv ≠ .failed errno
  | _ => True

/-- No call has been refused, and none of those in progress will be. -/
structure Unrefused (w : World) : Prop where
  refused : w.refused = []
  queue : ∀ m ∈ w.transport.mSendQueue.mQueue, Sendable m
  pending : ∀ m ∈ pendingSends w.stack, Sendable m

namespace Unrefused

variable {w : World}

theorem start (maxMessageSize : ℕ) : Unrefused (World.start maxMessageSize) := by
  constructor <;> simp [World.start, fresh]

/-- The property only looks at the sends in progress, not at the other frames. -/
theorem of_stack (h : Unrefused w) {stack : List Frame}
    (hstack : pendingSends stack = pendingSends w.stack) : Unrefused { w with stack } where
  refused := h.refused
  queue := h.queue
  pending := by
    rw [hstack]
    exact h.pending

/-- `trySendMessage` does not throw on a sendable message. -/
theorem not_threw {t : SctpTransport} {m : Message} {result : SendvResult} {e : Exception}
    (hm : Sendable m) (hresult : ∀ errno, result ≠ .failed errno) :
    t.trySendMessage m result ≠ .threw e := by
  intro hthrew
  rcases trySendMessage_threw hthrew with ⟨errno, herror⟩ | ⟨e', herror⟩
  · exact hresult errno herror
  · obtain ⟨spa, hspa⟩ := hm.2
    rw [hspa] at herror
    cases herror

theorem updateAmount (h : Unrefused w) (streamId : ℕ) (delta : ℤ) :
    Unrefused (w.updateAmount streamId delta) := by
  obtain ⟨hqueue, -, -, -, -, -, hrefused⟩ := w.updateAmount_frame streamId delta
  constructor
  · rw [hrefused]
    exact h.refused
  · rw [hqueue]
    exact h.queue
  · rw [w.pendingSends_updateAmount]
    exact h.pending

/-- Pushing a sendable message keeps the queue sendable. -/
theorem push (h : Unrefused w) {m : Message} (hm : Sendable m) {called accepted : List Message} :
    Unrefused
      { w with
        transport := { w.transport with mSendQueue := w.transport.mSendQueue.push m }
        called
        accepted } where
  refused := h.refused
  queue := by
    intro m' hmem
    simp only [Queue.push] at hmem
    split at hmem
    · exact h.queue m' hmem
    · rcases List.mem_append.1 hmem with hmem | hmem
      · exact h.queue m' hmem
      · rw [List.mem_singleton.1 hmem]
        exact hm
  pending := h.pending

theorem shutdownIfStopped (h : Unrefused w) (result : ShutdownResult) :
    Unrefused (w.shutdownIfStopped result) := by
  unfold World.shutdownIfStopped
  split
  · exact ⟨h.refused, h.queue, h.pending⟩
  · exact h

theorem returnFlushed (h : Unrefused w) {result : SendvResult}
    (hresult : ∀ errno, result ≠ .failed errno) : Unrefused (w.returnFlushed result) := by
  unfold World.returnFlushed
  split
  · next m rest hstack =>
    have hpending : ∀ m' ∈ m :: pendingSends rest, Sendable m' := by
      rw [← pendingSends_sendFlushing, ← hstack]
      exact h.pending
    have hrest : ∀ m' ∈ pendingSends rest, Sendable m' :=
      fun m' hmem => hpending m' (List.mem_cons_of_mem m hmem)
    unfold World.sendDirect
    split
    · exact ⟨h.refused, h.queue, hpending⟩
    · next hthrew => exact absurd hthrew (not_threw (hpending m List.mem_cons_self) hresult)
      -- a sendable message is refused for an error of usrsctp only
    · next t output htry =>
      obtain ⟨-, bytesSent, rfl⟩ := trySendMessage_accepted htry
      exact ⟨h.refused, h.queue, hrest⟩
  · exact h

theorem trySendQueue (h : Unrefused w) {answer : Answer}
    (hresult : ∀ errno, answer.sendv ≠ .failed errno) : Unrefused (w.trySendQueue answer) := by
  unfold World.trySendQueue
  split
  · exact (h.shutdownIfStopped _).returnFlushed hresult
  · next m hpeek =>
    have hm : Sendable m := h.queue m (List.mem_of_mem_head? hpeek)
    split
    · exact h.of_stack (by simp)
    · next hthrew => exact absurd hthrew (not_threw hm hresult)
    · next t output htry =>
      obtain ⟨-, bytesSent, rfl⟩ := trySendMessage_accepted htry
      rw [toUint16_natCast hm.1]
      apply updateAmount
      constructor
      · exact h.refused
      · intro m' hmem
        rw [Queue.mQueue_pop] at hmem
        exact h.queue m' (List.mem_of_mem_tail hmem)
      · exact h.pending

theorem sendQueueing {m : Message} (h : Unrefused { w with stack := .sendQueueing m :: w.stack }) :
    Unrefused (w.sendQueueing m) := by
  have hm : Sendable m := h.pending m List.mem_cons_self
  have hrest : Unrefused w :=
    ⟨h.refused, h.queue, fun m' hmem => h.pending m' (List.mem_cons_of_mem m hmem)⟩
  unfold World.sendQueueing
  rw [toUint16_natCast hm.1]
  exact (hrest.push hm).updateAmount _ _

/-- A call of `send` with a sendable message. -/
theorem send (h : Unrefused w) {message : Option Message} (hok : NoSendError (.send message)) :
    Unrefused (w.send message) := by
  unfold World.send
  split
  · exact h
  · split
    · exact h.of_stack (by simp)
    · next m =>
      split
      · exact h
      · have hpending : ∀ m' ∈ m :: pendingSends w.stack, Sendable m' :=
          List.forall_mem_cons.2 ⟨hok, h.pending⟩
        exact ⟨h.refused, h.queue, hpending⟩

/-- The reset that `closeStream` queues is sendable. -/
theorem closeStream (h : Unrefused w) (stream : ℕ) : Unrefused (w.closeStream stream) := by
  unfold World.closeStream
  split
  · exact h
  · next streamId hstream =>
    obtain ⟨rfl, hle⟩ := toUint16_eq_ok_iff.1 hstream
    exact h.push ⟨hle, _, rfl⟩

/-- Every step without a send error preserves the property. -/
theorem step {e : Event} {w' : World} (h : Unrefused w) (hok : NoSendError e)
    (hstep : w.Takes e w') : Unrefused w' := by
  cases hstep with
  | send => exact h.send hok
  | closeStream => exact h.closeStream _
  | flush => exact h.of_stack (by simp)
  | flushRefused => exact h
  | doFlush hstack => exact h.of_stack (by simp [hstack])
  | close =>
    unfold World.close
    dsimp only
    split <;> exact ⟨h.refused, h.queue, h.pending⟩
  | trySendQueue hstack => exact (h.of_stack (by simp [hstack])).trySendQueue hok
  | @sendQueueing _ m rest hstack =>
    exact sendQueueing (w := { w with stack := rest }) (h.of_stack (by simp [hstack]))
  | callbackReturn hstack => exact h.of_stack (by simp [hstack])

end Unrefused

/-! ## Whole runs -/

/-- In every run from a connected transport in which nothing is sent after `close`:

* what was handed to usrsctp followed by the send queue is what the transport took charge of, in
  the order it did;
* every message passed to the transport is taken charge of, still in progress, or refused with an
  exception, and exactly once; without send errors none is refused;
* the shutdown is issued at most once, with every accepted message handed over before it. -/
theorem delivery_order {maxMessageSize : ℕ} {events : List Event} {w : World}
    (hrun : Transition.run World.step (World.start maxMessageSize) events = some w)
    (hok : Transition.Meets World.step NoSendAfterClose (World.start maxMessageSize) events) :
    handed w.outputs ++ w.transport.mSendQueue.mQueue = w.accepted ∧
      (w.accepted ++ pendingSends w.stack ++ w.refused).Perm w.called ∧
      ((∀ e ∈ events, NoSendError e) → w.refused = []) ∧
      w.outputs.count .shutdown ≤ 1 ∧
      ∀ before after, w.outputs = before ++ .shutdown :: after → handed before = w.accepted := by
  have h : Ordered w := Transition.run_invariant
    (fun _ _ _ hw hstepOk hstep => hw.step hstepOk (.of_step hstep)) (Ordered.start maxMessageSize)
    hok hrun
  refine ⟨h.order, ?_, ?_, ?_, h.last⟩
  · rw [List.perm_iff_count]
    intro m
    rw [List.count_append, List.count_append]
    exact (h.calls m).symm
  · intro hevents
    have hmeets : Transition.Meets World.step (fun _ e => NoSendError e)
        (World.start maxMessageSize) events := Transition.meets_of_forall hevents
    have hunrefused : Unrefused w := Transition.run_invariant
      (fun _ _ _ hw hstepOk hstep => hw.step hstepOk (.of_step hstep))
      (Unrefused.start maxMessageSize) hmeets hrun
    -- a second invariant, which needs no condition on `close`
    exact hunrefused.refused
  · rw [h.count]
    split <;> decide

/-- A one-byte user message. -/
def byteMessage (stream : ℕ) (byte : UInt8) : Message := { data := [byte], type := .binary, stream }

/-- A blocked send, a reset queued behind it, a send whose flush calls the user, who sends again
and is blocked in turn, and `close`. -/
def reentrantRun : List Event :=
  [.send (some (byteMessage 0 1)), .next { sendv := .wouldBlock }, .next {}, .callbackReturn,
    .closeStream 0,
    .send (some (byteMessage 2 2)), .next {},
    -- from the callback of the first message, just handed over
    .send (some (byteMessage 4 3)), .next {}, .next { sendv := .wouldBlock }, .next {},
    .callbackReturn, .callbackReturn,
    -- the flush goes on with the message sent from the callback
    .next {}, .callbackReturn, .next {},
    .close, .doFlush, .next {}]

theorem delivery_order_reentrantRun :
    ∃ w, Transition.run World.step (World.start 16) reentrantRun = some w ∧
      Transition.Meets World.step NoSendAfterClose (World.start 16) reentrantRun ∧
      w.accepted = [byteMessage 0 1, { data := [], type := .reset, stream := 0 },
        byteMessage 4 3, byteMessage 2 2] ∧
      w.outputs.count .shutdown = 1 ∧
      handed w.outputs ++ w.transport.mSendQueue.mQueue = w.accepted := by
  have hok : Transition.Meets World.step NoSendAfterClose (World.start 16) reentrantRun := by
    decide
  exact ⟨_, rfl, hok, by decide, by decide, (delivery_order rfl hok).1⟩

end Rtc.SctpTransport
