import QuicRtc.Callbacks.Invariant

/-!
# The calls that keep the callback protocol

What `open` and `incoming` do outside of the channel, and that every step that meets the condition
preserves the invariant.
-/

namespace Rtc.Callbacks

/-! ## The calls on the channel -/

/-- The kind and the flags of a channel are left alone. -/
def SameFlags (ch ch' : DataChannel) : Prop :=
  ch'.kind = ch.kind ∧ ch'.mIsOpen = ch.mIsOpen ∧ ch'.mIsClosed = ch.mIsClosed

/-- `open`: a negotiated channel triggers the open once, an outgoing one passes an OPEN message to
the transport unless it throws. -/
theorem openOn_effects (ch : DataChannel) :
    (ch.kind = .negotiated ∧ ch.mIsClosed = false ∧ ch.mIsOpen = false ∧
        ch.openOn =
          { channel := { ch with mSctpTransport := true, mIsOpen := true }
            effects := [.triggerOpen] }) ∨
      (∃ message, ch.kind = .outgoing ∧ ch.openLocked.2.toOption = some message ∧
        ch.openOn =
          { channel := { ch with mSctpTransport := true }, effects := [.send message] }) ∨
      SameFlags ch ch.openOn.channel ∧ ch.openOn.effects = [] := by
  unfold DataChannel.openOn
  split
  · next hkind =>
    dsimp only
    split
    · next hopen =>
      simp only [Bool.and_eq_true, Bool.not_eq_true'] at hopen
      exact Or.inl ⟨hkind, hopen.1, hopen.2, rfl⟩
    · -- the channel is closed, or open already
      exact Or.inr (Or.inr ⟨⟨rfl, rfl, rfl⟩, rfl⟩)
  · next hkind =>
    -- no check of `mIsClosed` on this path
    rcases DataChannel.openLocked_cases ch with ⟨e, hopen⟩ | ⟨stream, data, -, -, hopen⟩
    · rw [hopen]
      exact Or.inr (Or.inr ⟨⟨rfl, rfl, rfl⟩, rfl⟩)
    · rw [hopen]
      exact Or.inr (Or.inl ⟨_, hkind, rfl, rfl⟩)
  · exact Or.inr (Or.inr ⟨⟨rfl, rfl, rfl⟩, rfl⟩)

/-- An incoming channel that accepts an OPEN message sends an ACK, and triggers the open once. -/
theorem processOpenMessageIncoming_effects (ch : DataChannel) (message : Message) :
    (SameFlags ch (ch.processOpenMessageIncoming message).channel ∧
        (ch.processOpenMessageIncoming message).effects = []) ∨
      ∃ ack channel, channel.kind = ch.kind ∧ channel.mIsOpen = true ∧
        channel.mIsClosed = ch.mIsClosed ∧
        ch.processOpenMessageIncoming message =
          { channel, effects := .send ack :: if ch.mIsOpen then [] else [.triggerOpen] } := by
  unfold DataChannel.processOpenMessageIncoming
  split
  · exact Or.inl ⟨⟨rfl, rfl, rfl⟩, rfl⟩
  · split
    · exact Or.inl ⟨⟨rfl, rfl, rfl⟩, rfl⟩
    · split
      · exact Or.inl ⟨⟨rfl, rfl, rfl⟩, rfl⟩
      · dsimp only
        split
        · exact Or.inl ⟨⟨rfl, rfl, rfl⟩, rfl⟩
        · refine Or.inr ⟨_, _, ?_, ?_, ?_, rfl⟩ <;> rfl

/-- `incoming` on a channel that is not closed, for a message that is not a reset. -/
theorem incoming_effects (ch : DataChannel) (message : Message) (hclosed : ch.mIsClosed = false)
    (hreset : message.type ≠ .reset) :
    (isAckMessage message = true ∧ ch.mIsOpen = false ∧
        ch.incoming message =
          { channel := { ch with mIsOpen := true }, effects := [.triggerOpen] }) ∨
      ((message.type = .string ∨ message.type = .binary) ∧
        ch.incoming message = { channel := ch, effects := [.available message] }) ∨
      (∃ ack channel, ch.kind = .incoming ∧ channel.kind = ch.kind ∧ channel.mIsOpen = true ∧
        channel.mIsClosed = ch.mIsClosed ∧
        ch.incoming message =
          { channel, effects := .send ack :: if ch.mIsOpen then [] else [.triggerOpen] }) ∨
      SameFlags ch (ch.incoming message).channel ∧ (ch.incoming message).effects = [] := by
  unfold DataChannel.incoming
  rw [if_neg (by simp [hclosed])]
  cases htype : message.type with
  | reset => exact absurd htype hreset
  | string => exact Or.inr (Or.inl ⟨Or.inl rfl, rfl⟩)
  | binary => exact Or.inr (Or.inl ⟨Or.inr rfl, rfl⟩)
  | control =>
    cases hhead : message.data.head? with
    | none => exact Or.inr (Or.inr (Or.inr ⟨⟨rfl, rfl, rfl⟩, rfl⟩))
    | some b =>
      dsimp only
      split
      · -- an OPEN message, which only an incoming channel accepts
        unfold DataChannel.processOpenMessage
        split
        · exact Or.inr (Or.inr (Or.inr ⟨⟨rfl, rfl, rfl⟩, rfl⟩))
        · exact Or.inr (Or.inr (Or.inr ⟨⟨rfl, rfl, rfl⟩, rfl⟩))
        · next hkind =>
          rcases processOpenMessageIncoming_effects ch message with
            hsame | ⟨ack, channel, hkind', hopen, hclosed', heq⟩
          · exact Or.inr (Or.inr (Or.inr hsame))
          · exact Or.inr (Or.inr (Or.inl ⟨ack, channel, hkind, hkind', hopen, hclosed', heq⟩))
      · split
        · next hack =>
          cases hopen : ch.mIsOpen with
          | false => exact Or.inl ⟨by simp [isAckMessage, htype, hhead, hack], rfl, rfl⟩
          -- a second ACK is ignored
          | true =>
            refine Or.inr (Or.inr (Or.inr ⟨⟨rfl, ?_, rfl⟩, rfl⟩))
            exact hopen.symm
        · exact Or.inr (Or.inr (Or.inr ⟨⟨rfl, rfl, rfl⟩, rfl⟩))

namespace Inv

variable {w w' : World}

/-- A call that leaves the flags alone and does nothing else. -/
theorem apply_nothing (h : Inv w) {outcome : DataChannel.Outcome}
    (hsame : SameFlags w.channel outcome.channel) (heffects : outcome.effects = []) :
    Inv (w.apply outcome) := by
  have heq : w.apply outcome = { w with channel := outcome.channel } := by
    simp [World.apply, heffects]
  rw [heq]
  exact h.setChannel hsame.1 hsame.2.1 hsame.2.2

/-- A channel that is not incoming opens. -/
theorem apply_open (h : Inv w) {outcome : DataChannel.Outcome}
    (hkind : w.channel.kind ≠ .incoming) (hopen : w.channel.mIsOpen = false)
    (hkind' : outcome.channel.kind = w.channel.kind) (hopen' : outcome.channel.mIsOpen = true)
    (hclosed' : outcome.channel.mIsClosed = w.channel.mIsClosed)
    (heffects : outcome.effects = [.triggerOpen]) (hok : w.MayOpen) : Inv (w.apply outcome) := by
  have heq : w.apply outcome = { w with channel := outcome.channel }.triggerOpen := by
    simp [World.apply, heffects, World.effect]
  obtain ⟨hnone, hstored, hleft⟩ := h.only_open hkind hopen hopen'
  have hok' : World.MayOpen { w with channel := outcome.channel } := hok
  rw [heq]
  exact (h.setOpen hkind' hopen' hclosed').triggerOpen hnone hstored hleft hok'

theorem openTransport (h : Inv w) (hok : KeepsProtocol w .openTransport) :
    Inv (w.apply w.channel.openOn) := by
  rcases openOn_effects w.channel with
    ⟨hkind, hclosed, hopen, heq⟩ | ⟨message, hkind, hmessage, heq⟩ | ⟨hsame, heffects⟩
  · rw [heq]
    exact h.apply_open (by simp [hkind]) hopen rfl rfl rfl rfl (hok.1 hkind hclosed hopen)
  · -- the OPEN message goes out before `close`
    have hclosed : w.channel.mIsClosed = false := by
      by_contra hclosed
      have hnone := hok.2 hkind (by simpa using hclosed)
      rw [hmessage] at hnone
      cases hnone
    rw [heq]
    have hset : Inv { w with channel := { w.channel with mSctpTransport := true } } :=
      h.setChannel rfl rfl rfl
    exact hset.pass hclosed message
  · exact h.apply_nothing hsame heffects

/-- A message is pushed to the receive queue. -/
theorem available (h : Inv w) (hok : w.messageCallback = true → w.MayFlush) (message : Message) :
    Inv (w.effect (.available message)) := by
  have hpush : Inv
      { w with mRecvQueue := w.mRecvQueue ++ [message], arrived := w.arrived ++ [message] } := by
    refine { h with inOrder := ?_, protocol := ?_ }
    · -- the message waits behind those that came before
      rw [← h.inOrder, List.append_assoc]
    · refine { h.protocol with inOrder := ?_ }
      exact h.protocol.inOrder.trans (List.prefix_append _ _)
  exact hpush.flushPendingMessages fun hcallback _ => hok hcallback

theorem incoming_step (h : Inv w) {message : Message} (hok : KeepsProtocol w (.incoming message)) :
    Inv (w.incoming message) := by
  unfold World.incoming
  cases hclosed : w.channel.mIsClosed with
  | true =>
    have heq : w.channel.incoming message = { channel := w.channel } := by
      simp [DataChannel.incoming, hclosed]
    rw [heq]
    exact h.apply_nothing ⟨rfl, rfl, rfl⟩ rfl
  | false =>
    by_cases hreset : message.type = .reset
    · simpa [hreset] using h.close
    · simp only [Bool.not_false, hreset, decide_false, Bool.and_false, Bool.false_eq_true,
        if_false]
      rcases incoming_effects w.channel message hclosed hreset with
        ⟨hack, hopen, heq⟩ | ⟨hdata, heq⟩ | ⟨ack, channel, hkind, hkind', hopen', hclosed', heq⟩ |
          ⟨hsame, heffects⟩
      · -- an ACK message
        rw [heq]
        by_cases hkind : w.channel.kind = .incoming
        · -- an ACK opens an incoming channel all the same
          have hcallback := h.incoming hkind hclosed hopen
          have hset : Inv { w with channel := { w.channel with mIsOpen := true } } :=
            h.setOpen rfl rfl rfl
          exact hset.triggerOpen_internal hcallback rfl
        · exact h.apply_open hkind hopen rfl rfl rfl rfl ((hok hclosed).1 hack hopen)
      · rw [heq]
        exact h.available ((hok hclosed).2 hdata) message
      · -- an OPEN message
        rw [heq]
        have hset : Inv { w with channel } := h.setOpen hkind' hopen' hclosed'
        have hpass := hset.pass (hclosed'.trans hclosed) ack
        cases hopen : w.channel.mIsOpen with
        | true => exact hpass
        | false =>
          have hcallback := h.incoming hkind hclosed hopen
          have hcalled : w.closeCalled = false := h.closeCalled.trans hclosed
          have heq' : World.pass { w with channel } ack =
              { w with channel, passed := w.passed ++ [ack] } := if_neg (by simp [hcalled])
          rw [heq'] at hpass
          have hopened := hpass.triggerOpen_internal hcallback hopen'
          simpa [World.apply, World.effect, heq'] using hopened
      · exact h.apply_nothing hsame heffects

/-! ### The registrations -/

theorem onOpen (h : Inv w) (hknown : w.isKnown = true) (hok : KeepsProtocol w .onOpen) :
    Inv w.onOpen := by
  have hset : Inv { w with openCallback := some .user } := by
    refine { h with openCount := ?_, internal := by simp, incoming := ?_, protocol := ?_ }
    · have hle : World.opensLeft { w with openCallback := some .user } ≤ w.opensLeft := by
        simp only [World.opensLeft, internalOpens]
        omega
      exact (Nat.add_le_add_left hle _).trans h.openCount
    · -- the user knows an incoming channel after it has been opened only
      intro hkind _ hopen
      have hhanded : w.isHandedOver = true := by
        have hkind : w.channel.kind = .incoming := hkind
        simpa [World.isKnown, hkind] using hknown
      have hopen' := (h.known (Or.inr hhanded)).2
      have hopen : w.channel.mIsOpen = false := hopen
      simp [hopen] at hopen'
    · exact h.protocol.congr rfl rfl rfl
  unfold World.onOpen
  dsimp only
  split
  · next hstored =>
    have hopen : .open ∉ w.trace := h.openOnce (Or.inr hstored)
    have hclosed : .closed ∉ w.trace := hok hstored
    -- a stored open is the last one
    have hleft : World.opensLeft { w with openCallback := some .user } = 0 := by
      have hcount := hset.openCount
      have hone : w.openStored.toNat = 1 := by rw [hstored, Bool.toNat_true]
      dsimp only at hcount
      omega
    exact hset.observeOpen hopen hclosed hleft w.mOpenTriggered
  · exact hset

theorem onClosed (h : Inv w) : Inv w.onClosed := by
  have hset : Inv { w with closedCallback := true } :=
    { h with protocol := h.protocol.congr rfl rfl rfl }
  unfold World.onClosed
  dsimp only
  split
  · next hstored =>
    have hcount := h.closedCount
    rw [hstored, Bool.toNat_true] at hcount
    -- a stored closed is the only one
    have hle := Bool.toNat_le w.channel.mIsClosed
    have hclosed : .closed ∉ w.trace := List.count_eq_zero.1 (by omega)
    refine
      { hset with
        closedCount := ?_
        openCount := ?_
        opened := ?_
        inOrder := ?_
        protocol := ?_ }
    · simp only [World.observe, List.count_append, List.count_singleton_self, Bool.toNat_false]
      omega
    · have hcount := h.openCount
      simp only [World.opensLeft, World.observe, List.count_append] at hcount ⊢
      simpa using hcount
    · intro htriggered
      exact (h.opened htriggered).imp_left fun hopen => List.mem_append_left _ hopen
    · simpa [World.observe] using h.inOrder
    · exact (hset.protocol.observeClosed hclosed).congr rfl rfl rfl
  · exact hset

theorem onMessage (h : Inv w) (hok : KeepsProtocol w .onMessage) : Inv w.onMessage := by
  have hset : Inv { w with messageCallback := true } :=
    { h with protocol := h.protocol.congr rfl rfl rfl }
  exact hset.flushPendingMessages fun _ hqueue => hok hqueue

/-- The data-channel callback returns. -/
theorem callbackReturns (h : Inv w) (hrunning : w.isRunning = true) (hok : w.MayOpen) :
    Inv { w with isRunning := false }.triggerOpen := by
  have hcount := h.openCount
  simp only [World.opensLeft, hrunning, Bool.toNat_true] at hcount
  -- the callback that returns was the last way left
  have hleft : World.opensLeft { w with isRunning := false } = 0 := by
    simp only [World.opensLeft, Bool.toNat_false]
    omega
  have hset : Inv { w with isRunning := false } := by
    refine { h with openCount := ?_, protocol := h.protocol.congr rfl rfl rfl }
    rw [hleft]
    dsimp only
    omega
  have hopen : w.trace.count .open = 0 := by omega
  have hstored : w.openStored = false := Bool.toNat_eq_zero.1 (by omega)
  exact hset.triggerOpen (List.count_eq_zero.1 hopen) hstored hleft hok

/-- Every step that meets the condition preserves the invariant. -/
theorem step {e : Event} (h : Inv w) (hok : KeepsProtocol w e) (hstep : w.step e = some w') :
    Inv w' := by
  cases e with
  | openTransport =>
    cases hstep
    exact h.openTransport hok
  | incoming message =>
    simp only [World.step, Option.ite_none_left_eq_some, Option.some.injEq] at hstep
    obtain ⟨-, rfl⟩ := hstep
    exact h.incoming_step hok
  | close =>
    cases hstep
    exact h.close
  | send maxMessageSize message =>
    cases hstep
    unfold World.send
    split
    · next message' hlocked =>
      -- `outgoing` refuses messages on a closed channel
      refine h.pass ?_ message'
      cases hclosed : w.channel.mIsClosed with
      | false => rfl
      | true => simp [DataChannel.outgoingLocked, hclosed] at hlocked
    · exact h
  | assignStream stream =>
    simp only [World.step, DataChannel.assignStream] at hstep
    split at hstep
    · next channel hassign =>
      cases hstep
      split at hassign
      · cases hassign
      · cases hassign
        exact h.setChannel rfl rfl rfl
    · cases hstep
      exact h
  | onOpen =>
    simp only [World.step, Option.ite_none_right_eq_some, Option.some.injEq] at hstep
    obtain ⟨hknown, rfl⟩ := hstep
    exact h.onOpen hknown hok
  | onClosed =>
    simp only [World.step, Option.ite_none_right_eq_some, Option.some.injEq] at hstep
    obtain ⟨-, rfl⟩ := hstep
    exact h.onClosed
  | onMessage =>
    simp only [World.step, Option.ite_none_right_eq_some, Option.some.injEq] at hstep
    obtain ⟨-, rfl⟩ := hstep
    exact h.onMessage hok
  | onDataChannel callback =>
    cases hstep
    exact { h with protocol := h.protocol.congr rfl rfl rfl }
  | handOver =>
    simp only [World.step, Option.ite_none_right_eq_some, Option.some.injEq, Bool.and_eq_true]
      at hstep
    obtain ⟨⟨hpending, -⟩, rfl⟩ := hstep
    have hcount := h.openCount
    simp only [World.opensLeft, hpending, Bool.toNat_true] at hcount
    refine
      { h with
        openCount := ?_
        known := fun _ => h.known (Or.inl hpending)
        protocol := h.protocol.congr rfl rfl rfl }
    -- the way through the pending channels becomes the one through the callback
    simp only [World.opensLeft, Bool.toNat_true, Bool.toNat_false]
    omega
  | callbackReturns =>
    simp only [World.step, Option.ite_none_right_eq_some, Option.some.injEq] at hstep
    obtain ⟨hrunning, rfl⟩ := hstep
    exact h.callbackReturns hrunning hok

end Inv

end Rtc.Callbacks
