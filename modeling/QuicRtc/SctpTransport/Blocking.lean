import QuicRtc.SctpTransport.Spec

/-!
# A message that fails

`trySendQueue` hands over the head of the queue and pops it afterwards, and `trySendMessage` throws
if the message is rejected. A message that is rejected every time therefore stays at the head: it
ends every flush, and it ends every `send`, whose own message is refused.

An environment in which each message has its own fate is a function from messages to the outcomes
of `usrsctp_sendv`. `World.Completes` runs a call to its end in such an environment.
-/

namespace Rtc.SctpTransport

/-- `trySendMessage` throws for this message every time: usrsctp reports an error other than
`EWOULDBLOCK` and `EAGAIN`, or the reliability is out of range. A reset has neither. -/
def FailsPermanently (usrsctp : Message → SendvResult) (m : Message) : Prop :=
  m.type ≠ .reset ∧ ((∃ errno, usrsctp m = .failed errno) ∨ ∃ e, sendvSpa m = .error e)

/-- A message that can be sent: not too large, with a stream and a reliability in range, and
accepted by usrsctp. -/
def CanSend (usrsctp : Message → SendvResult) (maxMessageSize : ℕ) (m : Message) : Prop :=
  m.size ≤ maxMessageSize ∧ m.stream ≤ 65535 ∧ (∃ spa, sendvSpa m = .ok spa) ∧ usrsctp m = .sent

namespace World

/-- The message that `trySendMessage` is called with in the next step. -/
def attempt (w : World) : Option Message :=
  match w.stack with
  | .trySendQueue :: stack =>
    w.transport.mSendQueue.peek.or
      (match stack with
        | .sendFlushing m :: _ => some m
        | _ => none)
  | _ => none

/-- The answers usrsctp gives in the next step. -/
def answer (usrsctp : Message → SendvResult) (w : World) : Answer where
  sendv := w.attempt.elim .sent usrsctp

/-- The calls in progress run to their end, the user's callback returning at once. -/
inductive Completes (usrsctp : Message → SendvResult) : World → World → Prop
  | done {w : World} (hstack : w.stack = []) : Completes usrsctp w w
  | next {w w' w'' : World} (hstep : w.step (.next (w.answer usrsctp)) = some w')
    (hrest : Completes usrsctp w' w'') : Completes usrsctp w w''
  | callbackReturn {w w' w'' : World} (hstep : w.step .callbackReturn = some w')
    (hrest : Completes usrsctp w' w'') : Completes usrsctp w w''

/-- A `send` of the message hands it over and does not throw. -/
def Hands (usrsctp : Message → SendvResult) (w : World) (m : Message) : Prop :=
  ∀ w₁ w₂, w.step (.send (some m)) = some w₁ → Completes usrsctp w₁ w₂ →
    w₂.refused = w.refused ∧ ∃ earlier, handed w₂.outputs = handed w.outputs ++ earlier ++ [m]

/-- After the flush `e`, no message of another stream is left behind `m`, and a sendable message of
another stream is handed over. -/
def MovesOn (usrsctp : Message → SendvResult) (e : Event) (w : World) (m : Message) : Prop :=
  ∀ w₁ w', w.step e = some w₁ → Completes usrsctp w₁ w' →
    (∀ other ∈ w'.transport.mSendQueue.mQueue, other.stream = m.stream) ∧
      ∀ other, CanSend usrsctp w.transport.mMaxMessageSize other → other.stream ≠ m.stream →
        Hands usrsctp w' other

variable {usrsctp : Message → SendvResult} {w : World} {m : Message}

/-- On a connected transport a failing message makes `trySendMessage` throw. -/
theorem trySendMessage_fails {t : SctpTransport} (hconnected : t.mState = .connected)
    (hfails : FailsPermanently usrsctp m) : ∃ e, t.trySendMessage m (usrsctp m) = .threw e := by
  obtain ⟨hreset, hcause⟩ := hfails
  unfold trySendMessage
  rw [if_neg (by simp [hconnected])]
  cases hspa : sendvSpa m with
  | error e => cases htype : m.type <;> simp_all
  | ok spa =>
    obtain ⟨errno, hfailed⟩ : ∃ errno, usrsctp m = .failed errno := by simpa [hspa] using hcause
    cases htype : m.type <;> simp_all

/-- The loop of `trySendQueue` ends at a failing head, whatever waits behind it. -/
theorem step_failing_head {stack : List Frame} (hstack : w.stack = .trySendQueue :: stack)
    (hconnected : w.transport.mState = .connected) (hhead : w.transport.mSendQueue.peek = some m)
    (hfails : FailsPermanently usrsctp m) :
    w.step (.next (w.answer usrsctp)) = some ({ w with stack } : World).throw := by
  have hanswer : (w.answer usrsctp).sendv = usrsctp m := by simp [answer, attempt, hstack, hhead]
  obtain ⟨e, hthrew⟩ := trySendMessage_fails hconnected hfails
  simp only [step, hstack, trySendQueue, hhead, hanswer, hthrew]

/-- A `send` behind a failing head ends with an exception and hands nothing over. -/
theorem not_hands (hstack : w.stack = []) (hhead : w.transport.mSendQueue.peek = some m)
    (hfails : FailsPermanently usrsctp m) {other : Message}
    (hsize : other.size ≤ w.transport.mMaxMessageSize) : ¬Hands usrsctp w other := by
  intro hhands
  by_cases hconnected : w.transport.mState = .connected
  · let w₁ : World :=
      { w with stack := [.trySendQueue, .sendFlushing other], called := w.called ++ [other] }
    have hsend : w.step (.send (some other)) = some w₁ := by
      simp [step, mayCall, hstack, send, hconnected, w₁, Nat.not_lt.2 hsize]
    have hthrow : w₁.step (.next (w₁.answer usrsctp)) =
        some ({ w₁ with stack := [.sendFlushing other] } : World).throw :=
      step_failing_head rfl hconnected hhead hfails
    obtain ⟨hrefused, -⟩ := hhands w₁ _ hsend (.next hthrow (.done rfl))
    simp [throw, unwound, w₁] at hrefused
  · -- `send` returns `false` at once
    have hstep : w.step (.send (some other)) = some w := by
      simp [step, mayCall, hstack, send, hconnected]
    obtain ⟨-, earlier, hhanded⟩ := hhands w w hstep (.done hstack)
    simp at hhanded

/-- A flush with a failing head ends, and leaves the queue as it is. -/
theorem completes_flush (hstack : w.stack = []) (hhead : w.transport.mSendQueue.peek = some m)
    (hfails : FailsPermanently usrsctp m) {e : Event} (he : e = .flush ∨ e = .doFlush) :
    ∃ w₁ w', w.step e = some w₁ ∧ Completes usrsctp w₁ w' ∧ w'.stack = [] ∧
      w'.transport = w.transport := by
  by_cases hconnected : w.transport.mState = .connected
  · let w₁ : World := { w with stack := [.trySendQueue] }
    have hflush : w.step e = some w₁ := by
      rcases he with rfl | rfl <;> simp [step, mayCall, hstack, hconnected, w₁]
    have hthrow : w₁.step (.next (w₁.answer usrsctp)) =
        some ({ w₁ with stack := [] } : World).throw :=
      step_failing_head rfl hconnected hhead hfails
    exact ⟨w₁, _, hflush, .next hthrow (.done rfl), rfl, rfl⟩
  · rcases he with rfl | rfl
    · exact ⟨w, w, by simp [step, mayCall, hstack, hconnected], .done hstack, hstack, rfl⟩
    · -- without a connection `trySendMessage` returns `false`
      let w₁ : World := { w with stack := [.trySendQueue] }
      have hblocked : w.transport.trySendMessage m (usrsctp m) = .blocked := by
        simp [trySendMessage, hconnected]
      have hanswer : (w₁.answer usrsctp).sendv = usrsctp m := by simp [answer, attempt, w₁, hhead]
      have hreturn : w₁.step (.next (w₁.answer usrsctp)) = some { w with stack := [] } := by
        simp [step, trySendQueue, w₁, hhead, hanswer, hblocked, returnBlocked]
      exact ⟨w₁, _, by simp [step, hstack, w₁], .next hreturn (.done rfl), rfl, rfl⟩

/-- A head that fails permanently blocks the transport, in every state of the queue: after a flush
everything is still behind it, and no `send` on another stream goes through. -/
theorem not_movesOn (hstack : w.stack = []) (hhead : w.transport.mSendQueue.peek = some m)
    (hfails : FailsPermanently usrsctp m) (haccepts : ∀ other, other ≠ m → usrsctp other = .sent)
    {e : Event} (he : e = .flush ∨ e = .doFlush) : ¬MovesOn usrsctp e w m := by
  intro hmoves
  obtain ⟨w₁, w', hstep, hcompletes, hstack', htransport⟩ :=
    completes_flush hstack hhead hfails he
  obtain ⟨-, hhands⟩ := hmoves w₁ w' hstep hcompletes
  let other : Message := { data := [], type := .string, stream := if m.stream = 0 then 1 else 0 }
  have hstream : other.stream ≠ m.stream ∧ other.stream ≤ 65535 := by
    simp only [other]
    split <;> omega
  have hother : other ≠ m := fun heq => hstream.1 (congrArg Message.stream heq)
  have hsendable : CanSend usrsctp w.transport.mMaxMessageSize other :=
    ⟨Nat.zero_le _, hstream.2, ⟨_, rfl⟩, haccepts other hother⟩
  rw [← htransport] at hhead
  exact not_hands hstack' hhead hfails (Nat.zero_le _) (hhands other hsendable hstream.1)

/-- A message that usrsctp rejects, at the head of the queue, and one of another stream. -/
def rejected : Message := { data := [65], type := .string, stream := 1 }

def waiting : Message := { data := [66], type := .string, stream := 2 }

/-- An environment that rejects one message. -/
def rejecting (m : Message) : SendvResult := if m = rejected then .failed 22 else .sent

/-- A connected transport with both messages in its queue. -/
def blockedWorld : World :=
  { start 16 with
    transport :=
      { fresh 16 with
        mSendQueue := ((fresh 16).mSendQueue.push rejected).push waiting } }

theorem not_movesOn_rejecting : ¬MovesOn rejecting .doFlush blockedWorld rejected :=
  not_movesOn rfl rfl ⟨by decide, Or.inl ⟨22, rfl⟩⟩ (fun _ hne => if_neg hne) (Or.inr rfl)

/-- Two flushes and a `send` on a third stream: nothing is handed over, both messages are still in
the queue, and the message passed to `send` is refused. -/
theorem rejected_head_blocks :
    ∃ w, Transition.run step blockedWorld
        [.flush, .next { sendv := rejecting rejected }, .doFlush,
          .next { sendv := rejecting rejected },
          .send (some { data := [67], type := .string, stream := 3 }),
          .next { sendv := rejecting rejected }] = some w ∧
      w.stack = [] ∧ handed w.outputs = [] ∧
      w.transport.mSendQueue.mQueue = [rejected, waiting] ∧
      w.refused = [{ data := [67], type := .string, stream := 3 }] :=
  ⟨_, rfl, rfl, rfl, rfl, rfl⟩

end World

end Rtc.SctpTransport
